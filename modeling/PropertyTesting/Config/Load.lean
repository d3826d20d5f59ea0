import PropertyTesting.Config.Toml

/-!
# Finding the configuration

One source alone decides: the path that the caller names, else the path in the environment, else the
file with the usual name if there is one, else the configuration that sets nothing. A source that
cannot be used is an error, and no other is tried. The search is the same for all languages in which
configurations can be spelled.
-/

namespace PropertyTesting.HarnessConfig

/-- The path of the file to read, if there is one. `named` is the value of the environment variable;
one that is no text counts as none. -/
def resolve (files : FileView) (named : Option (List UInt8)) (explicit : Option Path) :
    Except ConfigError (Option Path) :=
  match explicit with
  | some path =>
    match path.validate with
    | .error error => .error error
    | .ok _ => .ok (some path)
  | none =>
    match named.bind Text.decode? with
    | some text =>
      let path := Path.ofString text
      match path.validate with
      | .error error => .error error
      | .ok _ => .ok (some path)
    | none =>
      let path := Path.ofString defaultConfigName
      .ok (if files.isFile path then some path else none)

/-- The configuration in the content of a file. -/
def ofContent (decoder : ConfigDecoder) (content : ByteArray) : Except ConfigError HarnessConfig :=
  if maxConfigFileSize < content.size then .error (.invalid .largeFile)
  else
    match Text.decode? content.data.toList with
    | none => .error (.invalid .notUtf8)
    | some text => ofText decoder text

/-- The configuration in the file that a path leads to. -/
def read (decoder : ConfigDecoder) (files : FileView) (path : Path) :
    Except ConfigError HarnessConfig :=
  match files.read? path with
  | none => .error .io
  | some content => ofContent decoder content

/-- Finds the configuration among files, of which no more is known than what paths tell of them. -/
def find (decoder : ConfigDecoder) (files : FileView) (named : Option (List UInt8))
    (explicit : Option Path) : Except ConfigError HarnessConfig :=
  match resolve files named explicit with
  | .error error => .error error
  | .ok none => .ok unset
  | .ok (some path) => read decoder files path

/-- Finds the configuration in a storage, spelled in TOML. -/
def load (storage : Storage) (named : Option (List UInt8)) (explicit : Option Path) :
    Except ConfigError HarnessConfig :=
  find decode? storage.view named explicit

end PropertyTesting.HarnessConfig
