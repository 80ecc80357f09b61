import TraceScan.Text.Word

/-!
# Paths

Where a path that was read in some output leads, given the working directory of the program that
wrote it and the home directory that `~` stands for, if they are known. No file system is asked.
-/

namespace TraceScan.Path

/-! ## Kinds of paths -/

/-- Whether a path starts with a drive: a plain letter, a colon and a slash of either kind. -/
def hasDrive : List Char → Bool
  | letter :: colon :: slash :: _ =>
    Text.isPlainLetter letter && colon == ':' && (slash == '\\' || slash == '/')
  | _ => false

/-- Whether a path needs no working directory: it starts with `/`, with `~` or with a drive. -/
def isAbsolute (path : List Char) : Bool :=
  path.head? == some '/' || path.head? == some '~' || hasDrive path

/-! ## Joining -/

/-- The path without the components `./` in front of it. -/
def dropDots : List Char → List Char
  | '.' :: '/' :: rest => dropDots rest
  | path => path

/-- The path without the slashes at its end. -/
def dropSlashes (path : List Char) : List Char :=
  (path.reverse.dropWhile (· == '/')).reverse

/-- The place of the relative path `path` under `base`. -/
def join (base path : List Char) : List Char :=
  dropSlashes base ++ '/' :: dropDots path

/-! ## Resolution -/

/-- The path without one `file://` in front of it. -/
def dropScheme (path : List Char) : List Char :=
  let scheme := "file://".toList
  if scheme.isPrefixOf path then path.drop scheme.length else path

/-- The place of `rest`, which followed a `~`, under the home directory. Where no home directory is
known the path stays as it is. -/
def underHome (home : Option (List Char)) (rest : List Char) : List Char :=
  match home with
  | none => '~' :: rest
  | some base =>
    match rest.dropWhile (fun c => c == '/' || c == '\\') with
    | [] => base
    | path => join base path

/-- Where a path leads: rooted paths and the homes of other users stay as they are, drive paths get
forward slashes, `~` becomes the home directory and everything else is joined to `cwd`. -/
def resolveChars (home cwd : Option (List Char)) (raw : List Char) : List Char :=
  let path := dropScheme raw
  match path with
  | '/' :: _ => path
  | '~' :: [] => underHome home []
  | '~' :: '/' :: rest => underHome home ('/' :: rest)
  | '~' :: '\\' :: rest => underHome home ('\\' :: rest)
  | '~' :: _ => path
  | _ =>
    if hasDrive path then path.map fun c => if c == '\\' then '/' else c
    else
      match cwd with
      | none | some [] => path
      | some base => join base path

/-- Where a path leads, for strings. -/
def resolve (home cwd : Option String) (path : String) : String :=
  String.ofList (resolveChars (home.map String.toList) (cwd.map String.toList) path.toList)

end TraceScan.Path
