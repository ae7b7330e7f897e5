import ProxyWatch.Json.Printer
import ProxyWatch.Json.Source

/-! Stores of JSON values by key: in memory, or in the files of a directory. -/
namespace ProxyWatch

/-- Why a file cannot be read or written. -/
inductive FileFault where
  | missing
  | taken
  | notDirectory
  | isDirectory
  | nameTooLong
  | badName
  | notText
  | other (detail : String)
  deriving DecidableEq, Repr

def FileFault.message : FileFault → String
  | missing => "No such file or directory (os error 2)"
  | taken => "File exists (os error 17)"
  | notDirectory => "Not a directory (os error 20)"
  | isDirectory => "Is a directory (os error 21)"
  | nameTooLong => "File name too long (os error 36)"
  | badName => "file name contained an unexpected NUL byte"
  | notText => "stream did not contain valid UTF-8"
  | other detail => detail

inductive StoreError where
  | io (fault : FileFault)
  | encoding
  | unknownEndpoint (id : String)
  deriving DecidableEq, Repr

def StoreError.message : StoreError → String
  | io fault => "Store I/O error: " ++ fault.message
  | encoding => "Store encoding error"
  | unknownEndpoint id => "Unknown endpoint: " ++ id

/-- What a name in a directory stands for: a text, a file of bytes that are no text, or a directory. -/
inductive FileEntry where
  | file (text : String)
  | binary
  | folder
  deriving DecidableEq, Repr

/-- What stands at the path of a store: nothing yet, something that keeps a directory from being
there, or the directory. -/
inductive FileStore where
  | absent
  | obstructed (fault : FileFault)
  | directory (entries : Dictionary FileEntry)
  deriving DecidableEq, Repr

namespace FileStore

def entries : FileStore → Dictionary FileEntry
  | directory entries => entries
  | absent | obstructed _ => []

/-- The longest name of a file, in bytes. -/
def nameLimit : Nat := 255

def fileName (key : String) : String := key ++ ".json"

/-- Where a value is written before it takes the place of the one before it. -/
def draftName (key : String) : String := fileName key ++ ".tmp"

/-- What keeps a name from being that of a file in the directory itself. -/
def nameFault? (name : String) : Option FileFault :=
  if name.toList.contains '\x00' then some .badName
  else if nameLimit < name.utf8ByteSize then some .nameTooLong
  else if name.toList.contains '/' then some .missing
  else none

/-- The text of a key's file, if there is one. -/
def read (store : FileStore) (key : String) : Except StoreError (Option String) :=
  match store, nameFault? (fileName key) with
  | _, some .badName => .error (.io .badName)
  | absent, _ => .ok none
  | obstructed _, _ => .error (.io .notDirectory)
  | directory _, some .nameTooLong => .error (.io .nameTooLong)
  | directory entries, _ =>
    match entries.get? (fileName key) with
    | none => .ok none
    | some .folder => .error (.io .isDirectory)
    | some .binary => .error (.io .notText)
    | some (.file text) => .ok (some text)

def load (store : FileStore) (key : String) : Except StoreError (Option Json) := do
  match ← store.read key with
  | none => pure none
  | some text =>
    match Json.parse? text with
    | some value => pure (some value)
    | none => .error .encoding

/-- Writes a draft beside the key's file and renames it. A draft that cannot be renamed stays. -/
def save (store : FileStore) (key : String) (value : Json) : Except StoreError Unit × FileStore :=
  match store with
  | obstructed fault => (.error (.io fault), obstructed fault)
  | absent | directory _ =>
    let entries := store.entries
    let text := FileEntry.file value.toIndentedText
    match nameFault? (draftName key) with
    | some fault => (.error (.io fault), directory entries)
    | none =>
      match entries.get? (draftName key), entries.get? (fileName key) with
      | some .folder, _ => (.error (.io .isDirectory), directory entries)
      | _, some .folder => (.error (.io .isDirectory), directory (entries.insert (draftName key) text))
      | _, _ => (.ok (), directory ((entries.erase (draftName key)).insert (fileName key) text))

end FileStore

/-- A store that keeps one value under each key. -/
inductive Store where
  | memory (values : Dictionary Json)
  | files (files : FileStore)
  deriving Repr

namespace Store

/-- The value under a key, or none if nothing was saved under it. -/
def load (store : Store) (key : String) : Except StoreError (Option Json) :=
  match store with
  | memory values => .ok (values.get? key)
  | files folder => folder.load key

/-- Replaces the value under a key. -/
def save (store : Store) (key : String) (value : Json) : Except StoreError Unit × Store :=
  match store with
  | memory values => (.ok (), memory (values.insert key value))
  | files folder =>
    let (result, folder) := folder.save key value
    (result, files folder)

end Store
end ProxyWatch
