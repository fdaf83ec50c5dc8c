import ChannelFilter.Document
import ChannelFilter.FieldMapping.Load
import ChannelFilter.Text.Quoted
import ChannelFilter.Token.Lexer
import ChannelFilter.Token.Wire

/-!
# Interactive sessions

A session greets the user, says which field mapping it works with, and answers one line after the
other. A line is a command, which starts with a colon, or a filter expression, entered as free
text or as the document of its tokens. The answer to a line depends on that line and the mapping
only.

Everything here is a value: the answers are lists of messages, each of which is printed with a
line break behind it. The words for what a reader of documents refuses are passed in.
-/
namespace ChannelFilter.Session

def title : String := "--- Filter Compiler: 过滤表达式到查询文档 ---"

def defaultPath : String := "field_mapping.json"

/-- The last message before the first line, with an empty line behind it. -/
def hint : List String := ["输入 :help 查看帮助", ""]

def help : List String :=
  ["输入过滤表达式, 例如：",
   "  timestamp > 1 and CHANNEL_1 <= 1",
   "  not (shotnum = 3 or activeArea is not null)",
   "或者 JSON token 列表：",
   "  [\x7b\"kind\":\"channel\",\"value\":\"CHANNEL_1\"\x7d,\x7b\"kind\":\"unaryOp\",\"value\":\"is null\"\x7d]",
   "命令：",
   "  :ops   显示运算符目录",
   "  :help  显示帮助",
   "  :quit  退出"]

def loadMessages (path : String) : Except FieldMapping.LoadError FieldMapping → List String
  | .ok mapping =>
    ["✅ 成功从JSON配置文件加载字段映射: " ++ path,
     "✅ 元数据通道: " ++ Text.quotedSet mapping.metadataFields.names]
  | .error cause => ["⚠️ 无法加载JSON配置文件 (" ++ cause.message ++ "), 使用默认配置"]

def header (causes : Causes) (path : String) (entry : FileEntry) : List String :=
  title :: loadMessages path (FieldMapping.load causes path entry) ++ hint

/-- The mapping of a session: the one that is loaded, or the built-in one. -/
def mapping (causes : Causes) (path : String) (entry : FileEntry) : FieldMapping :=
  (FieldMapping.load causes path entry).toOption.getD .builtin

inductive Request
  | quit
  | help
  | operators
  | compile (text : String)
deriving DecidableEq, Repr

/-- The request of a line; a blank line makes none. -/
def Request.ofLine? (line : String) : Option Request :=
  let text := Text.trim line
  if text = "" then none
  else if text = ":quit" ∨ text = ":q" then some .quit
  else if text = ":help" then some .help
  else if text = ":ops" then some .operators
  else some (.compile text)

/-- The tokens of an expression, or a message. A bracket at the front announces the document of a
list of tokens, which may be malformed; any other text is cut into tokens. -/
def tokensOf (causes : Causes) (text : String) : Except String (List Token) :=
  if text.toList.head? = some '[' then
    match Token.readList? text with
    | none => .error ("无法解析JSON token 列表: " ++ causes.tokens text)
    | some tokens => .ok tokens
  else .ok (Token.lex text)

def failure (message : String) : String := "✗ " ++ message

/-- The message about tokens behind the condition, if there are any. -/
def leftover : List Token → List String
  | [] => []
  | tokens =>
    ["⚠️ 忽略了表达式之后的 " ++ tokens.length.repr ++ " 个 token: " ++
      " ".intercalate (tokens.map (·.value))]

def compileMessages (causes : Causes) (mapping : FieldMapping) (text : String) : List String :=
  match tokensOf causes text with
  | .error message => [failure message]
  | .ok tokens =>
    match compile mapping tokens with
    | .error cause => [failure cause.message]
    | .ok compiled => compiled.filter :: leftover compiled.remaining

/-- The answer to a line, or `none` if the line ends the session. -/
def answer? (causes : Causes) (mapping : FieldMapping) (line : String) : Option (List String) :=
  match Request.ofLine? line with
  | none => some []
  | some .quit => none
  | some .help => some help
  | some .operators => some [Catalog.toJson.pretty]
  | some (.compile text) => some (compileMessages causes mapping text)

/-- The answers to the lines up to the first that ends the session. -/
def answers (causes : Causes) (mapping : FieldMapping) : List String → List String
  | [] => []
  | line :: lines =>
    match answer? causes mapping line with
    | none => []
    | some messages => messages ++ answers causes mapping lines

def transcript (causes : Causes) (path : String) (entry : FileEntry) (lines : List String) :
    List String :=
  header causes path entry ++ answers causes (mapping causes path entry) lines

end ChannelFilter.Session
