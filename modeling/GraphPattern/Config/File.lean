/-
Settings in files.

A file tree holds files under paths; a path without a leading slash starts in one of
its directories.  Reading a path may fail as it does in a file system; the settings are
read from the text found there.
-/
import GraphPattern.Config.Basic

namespace GraphPattern

/-- Files and directories. -/
inductive FileTree where
  | file (text : String)
  /-- A file whose octets are no text. -/
  | binary
  | directory (entries : List (String × FileTree))

/-- Why a path could not be read. -/
inductive FileError where
  | notFound
  | notDirectory
  | isDirectory
  /-- A path, or one of its parts, is longer than a file system takes. -/
  | nameTooLong
  /-- No file name holds a zero character. -/
  | zeroCharacter
  | notText
deriving DecidableEq, Repr

/-- The text of an error, with its number. -/
def FileError.message : FileError → String
  | .notFound => "No such file or directory (os error 2)"
  | .notDirectory => "Not a directory (os error 20)"
  | .isDirectory => "Is a directory (os error 21)"
  | .nameTooLong => "File name too long (os error 36)"
  | .zeroCharacter => "file name contained an unexpected NUL byte"
  | .notText => "stream did not contain valid UTF-8"

namespace FileTree

def entry? (t : FileTree) (name : String) : Except FileError FileTree :=
  match t with
  | file _ | binary => .error .notDirectory
  | directory entries =>
    if 255 < name.utf8ByteSize then .error .nameTooLong
    else
      match entries.find? fun e => e.1 = name with
      | some e => .ok e.2
      | none => .error .notFound

/-- Walks along the parts of a path; `outer` are the directories around `t`, the
innermost first. -/
def walk (outer : List FileTree) (t : FileTree) : List String → Except FileError FileTree
  | [] => .ok t
  | part :: rest =>
    match t with
    | file _ | binary => .error .notDirectory
    | directory _ =>
      if part = "" || part = "." then walk outer t rest
      else if part = ".." then
        match outer with
        | [] => walk [] t rest
        | o :: outer => walk outer o rest
      else
        match t.entry? part with
        | .ok next => walk (t :: outer) next rest
        | .error e => .error e

end FileTree

/-- A file tree, and the parts of the path to the directory in which relative paths
start. -/
structure FileSystem where
  root : FileTree
  home : List String

namespace FileSystem

def read (s : FileSystem) (path : String) : Except FileError String :=
  if path.toList.contains '\x00' then .error .zeroCharacter
  else if path = "" then .error .notFound
  else if 4096 ≤ path.utf8ByteSize then .error .nameTooLong
  else
    let parts := path.splitOn "/"
    match s.root.walk [] (if parts.head? = some "" then parts else s.home ++ parts) with
    | .ok (.file text) => .ok text
    | .ok .binary => .error .notText
    | .ok (.directory _) => .error .isDirectory
    | .error e => .error e

end FileSystem

/-- Why settings could not be loaded. -/
inductive ConfigError where
  | unreadable (error : FileError)
  | invalid (fault : Yaml.Fault)
deriving DecidableEq, Repr

def ConfigError.message : ConfigError → String
  | .unreadable error => "Failed to read config: " ++ error.message
  | .invalid fault => "Invalid config: " ++ fault.message

namespace Config

def parse (s : String) : Except ConfigError Config := (ofYaml s).mapError .invalid

def load (files : FileSystem) (path : String) : Except ConfigError Config :=
  match files.read path with
  | .ok text => parse text
  | .error e => .error (.unreadable e)

end Config

end GraphPattern
