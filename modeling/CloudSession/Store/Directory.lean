/-
A directory of files, and contexts kept in one. Each key has a file of its
own. A write goes to a temporary file that is then renamed, so that a
reader finds the old context or the new one and nothing between. A file
that holds no context counts as absent.
-/
import CloudSession.Ascending
import CloudSession.Context
import CloudSession.Error

namespace CloudSession

/-- The files of a directory by name, names ascending. -/
structure Directory where
  files : List (String × ByteArray)

namespace Directory

def empty : Directory := ⟨[]⟩

-- ==================================================================== files

/-- The contents of a file. -/
def read? (d : Directory) (name : String) : Option ByteArray := d.files.lookup name

/-- Writes a file in place of a former one. -/
def write (d : Directory) (name : String) (bytes : ByteArray) : Directory :=
  ⟨Ascending.insert name bytes d.files⟩

/-- Removes a file, which need not be there. -/
def remove (d : Directory) (name : String) : Directory :=
  ⟨d.files.filter (·.1 != name)⟩

/-- Gives a file another name, in place of a former file of that name. -/
def rename (d : Directory) (source target : String) : Directory :=
  match d.read? source with
  | some bytes => (d.remove source).write target bytes
  | none => d

-- ================================================================= contexts

/-- The file of a key. -/
def entryName (key : String) : String := key ++ ".json"

/-- The file that a new context of a key is written to first. -/
def draftName (key : String) : String := "." ++ key ++ ".tmp"

/-- The context under a key. Bytes that are no text are a fault, text that
is no context is not. -/
def getContext (d : Directory) (key : String) : Except StoreFault (Option Context) :=
  match d.read? (entryName key) with
  | none => .ok none
  | some bytes =>
    match Text.Utf8.text? bytes with
    | none => .error .notText
    | some text => .ok (Context.read? text)

/-- Sets the context under a key. -/
def putContext (d : Directory) (key : String) (context : Context) : Directory :=
  (d.write (draftName key) context.toJson.pretty.toUTF8).rename (draftName key) (entryName key)

/-- Removes the context under a key. -/
def clearContext (d : Directory) (key : String) : Directory := d.remove (entryName key)

end Directory
end CloudSession
