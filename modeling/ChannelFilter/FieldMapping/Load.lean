import ChannelFilter.FieldMapping.Wire

/-!
# Field mappings from files

What is found at a path decides whether a mapping can be loaded from it: there has to be a file,
its bytes have to be text, and the text has to describe a mapping. Where that fails, the message
says so in words of its own and goes on with the cause in the words of whoever found it.
-/
namespace ChannelFilter

/-- What is found at a path. -/
inductive FileEntry
  | missing
  /-- Something without bytes to read, such as a directory, and why they cannot be read. -/
  | unreadable (cause : String)
  | file (content : ByteArray)

/-- The words for what readers of bytes and of documents refuse. -/
structure Causes where
  /-- Why bytes are no text. -/
  encoding : ByteArray → String
  /-- Why a text describes no mapping. -/
  mapping : String → String
  /-- Why a text describes no list of tokens. -/
  tokens : String → String

namespace FieldMapping

/-- Why no mapping can be loaded from a path. -/
inductive LoadError
  | notFound (path : String)
  /-- What is found there is no text. -/
  | unreadable (path cause : String)
  /-- The text found there describes no mapping. -/
  | malformed (path cause : String)
deriving DecidableEq, Repr

def LoadError.message : LoadError → String
  | .notFound path => "配置文件不存在: " ++ path
  | .unreadable path cause => "无法读取配置文件 " ++ path ++ ": " ++ cause
  | .malformed path cause => "无法解析JSON配置文件 " ++ path ++ ": " ++ cause

/-- The mapping that is described at the path, where `entry` is found. -/
def load (causes : Causes) (path : String) : FileEntry → Except LoadError FieldMapping
  | .missing => .error (.notFound path)
  | .unreadable cause => .error (.unreadable path cause)
  | .file content =>
    match String.fromUTF8? content with
    | none => .error (.unreadable path (causes.encoding content))
    | some text =>
      match read? text with
      | none => .error (.malformed path (causes.mapping text))
      | some mapping => .ok mapping

/-- The bytes of a text are read as that text, and only what it describes is left to decide. -/
theorem load_text (causes : Causes) (path text : String) :
    load causes path (.file text.toUTF8) =
      (read? text).elim (.error (.malformed path (causes.mapping text))) .ok := by
  have decoded : String.fromUTF8? text.toUTF8 = some text := dif_pos text.isValidUTF8
  simp only [load, decoded]
  cases read? text <;> rfl

end FieldMapping

end ChannelFilter
