import ChannelFilter.Session

/-!
# Lines of a session

A session answers each line as a session with that line alone would, and it stops at the first line
that ends it. So whatever a line comes to, a filter, a failure inside any number of groups or
tokens that are left over, later lines are answered as if it had not been there. The mapping is
what all of them share: where none can be loaded, it is the one that an object without fields
describes.
-/
namespace ChannelFilter.Session

variable {causes : Causes} {fields : FieldMapping} {line : String} {lines : List String}

/-- The line ends its session. -/
def Quits (line : String) : Prop :=
  Text.trim line = ":quit" ∨ Text.trim line = ":q"

instance : DecidablePred Quits := fun _ => inferInstanceAs (Decidable (_ ∨ _))

/-- The messages of a session behind those of its header. -/
def replies (causes : Causes) (path : String) (entry : FileEntry) (lines : List String) :
    List String :=
  (transcript causes path entry lines).drop (header causes path entry).length

theorem replies_eq (causes : Causes) (path : String) (entry : FileEntry) (lines : List String) :
    replies causes path entry lines = answers causes (mapping causes path entry) lines :=
  List.drop_left

theorem ofLine?_eq_quit_iff : Request.ofLine? line = some .quit ↔ Quits line := by
  simp only [Request.ofLine?, Quits]
  split
  · next blank => simp [blank]
  split
  · next quits => simp [quits]
  · next goesOn =>
    simp only [goesOn, iff_false]
    split
    · simp
    split <;> simp

theorem answer?_eq_none_iff (causes : Causes) (fields : FieldMapping) :
    answer? causes fields line = none ↔ Quits line := by
  rw [← ofLine?_eq_quit_iff]
  unfold answer?
  split <;> simp_all

theorem ofLine?_eq_none_iff : Request.ofLine? line = none ↔ Text.trim line = "" := by
  simp only [Request.ofLine?]
  split
  · next blank => simp [blank]
  · next shown =>
    simp only [shown, iff_false]
    split
    · simp
    split
    · simp
    split <;> simp

theorem compileMessages_ne_nil (causes : Causes) (fields : FieldMapping) (text : String) :
    compileMessages causes fields text ≠ [] := by
  unfold compileMessages
  split
  · simp
  split <;> simp

theorem answer?_eq_some_nil_iff (causes : Causes) (fields : FieldMapping) :
    answer? causes fields line = some [] ↔ Text.trim line = "" := by
  rw [← ofLine?_eq_none_iff]
  unfold answer?
  split <;> simp_all [help, compileMessages_ne_nil]

theorem answers_of_quits (quits : Quits line) : answers causes fields (line :: lines) = [] := by
  rw [answers, (answer?_eq_none_iff causes fields).2 quits]

theorem answers_cons (goesOn : ¬Quits line) :
    answers causes fields (line :: lines) =
      answers causes fields [line] ++ answers causes fields lines := by
  cases answer : answer? causes fields line with
  | none => exact absurd ((answer?_eq_none_iff causes fields).1 answer) goesOn
  | some messages => simp only [answers, answer, List.append_nil]

/-- Only a blank line goes unanswered without ending the session. -/
theorem answers_singleton_eq_nil_iff :
    answers causes fields [line] = [] ↔ Quits line ∨ Text.trim line = "" := by
  rw [← answer?_eq_none_iff causes fields, ← answer?_eq_some_nil_iff causes fields]
  cases answer : answer? causes fields line <;> simp [answers, answer]

/-- The lines in front of the first that ends the session. -/
def answered (lines : List String) : List String :=
  lines.takeWhile fun line => !decide (Quits line)

theorem answers_eq_flatMap (causes : Causes) (fields : FieldMapping) (lines : List String) :
    answers causes fields lines =
      (answered lines).flatMap fun line => answers causes fields [line] := by
  induction lines with
  | nil => rfl
  | cons line lines ih =>
      by_cases quits : Quits line
      · have none : answered (line :: lines) = [] := by simp [answered, quits]
        rw [answers_of_quits quits, none, List.flatMap_nil]
      · have first : answered (line :: lines) = line :: answered lines := by
          simp [answered, quits]
        rw [answers_cons quits, first, List.flatMap_cons, ih]

theorem answered_append_quits (quits : Quits line) (before behind : List String) :
    answered (before ++ line :: behind) = answered before := by
  induction before with
  | nil => simp [answered, quits]
  | cons first before ih =>
      by_cases stops : Quits first
      · simp [answered, stops]
      · simpa [answered, stops] using ih

/-- A file with the text of an object without fields. -/
def emptyObject : FileEntry :=
  .file "\x7b\x7d".toUTF8

theorem load_emptyObject (causes : Causes) (path : String) :
    FieldMapping.load causes path emptyObject = .ok .builtin := by
  have read : FieldMapping.read? "\x7b\x7d" = some .builtin := by decide +kernel
  rw [emptyObject, FieldMapping.load_text, read]
  rfl

theorem mapping_of_error {path : String} {entry : FileEntry} {cause : FieldMapping.LoadError}
    (failed : FieldMapping.load causes path entry = .error cause) (other : String) :
    mapping causes path entry = mapping causes other emptyObject := by
  rw [mapping, mapping, failed, load_emptyObject]
  rfl

/-- Every line up to the first that ends the session is answered as in a session of its own, where
every line that is not blank has an answer, and no line behind that one is answered. Where no
mapping can be loaded, the lines are answered as with the mapping of an object without fields. -/
theorem lines_answered_alone (causes : Causes) (path : String) (entry : FileEntry)
    (lines : List String) :
    transcript causes path entry lines =
        header causes path entry ++ replies causes path entry lines ∧
      replies causes path entry lines =
        (answered lines).flatMap (fun line => replies causes path entry [line]) ∧
      (∀ line, replies causes path entry [line] = [] ↔ Quits line ∨ Text.trim line = "") ∧
      (∀ line behind, Quits line →
        transcript causes path entry (lines ++ line :: behind) =
          transcript causes path entry lines) ∧
      ∀ cause other, FieldMapping.load causes path entry = .error cause →
        replies causes path entry lines = replies causes other emptyObject lines := by
  refine ⟨?_, ?_, ?_, ?_, ?_⟩
  · rw [replies_eq]
    rfl
  · simp only [replies_eq]
    exact answers_eq_flatMap causes _ lines
  · intro line
    rw [replies_eq]
    exact answers_singleton_eq_nil_iff
  · intro line behind quits
    rw [transcript, transcript, answers_eq_flatMap, answers_eq_flatMap _ _ lines,
      answered_append_quits quits]
  · intro cause other failed
    rw [replies_eq, replies_eq, mapping_of_error failed other]

/-- The words for a text that starts with a letter, and for a token without a value. -/
def causesSample : Causes where
  encoding _ := "stream did not contain valid UTF-8"
  mapping _ := "expected value at line 1 column 1"
  tokens _ := "missing field `value` at line 1 column 19"

/-- A file with a text that describes no mapping. -/
def entrySample : FileEntry :=
  .file "invalid json".toUTF8

/-- Lines that are refused inside open groups, as a document and behind a condition. -/
def troubledSample : List String :=
  ["((a = 1", "[\x7b\"kind\":\"channel\"\x7d]", "a is null) b"]

theorem load_entrySample (causes : Causes) (path : String) :
    FieldMapping.load causes path entrySample =
      .error (.malformed path (causes.mapping "invalid json")) := by
  have refused : FieldMapping.read? "invalid json" = none := by decide +kernel
  rw [entrySample, FieldMapping.load_text, refused]
  rfl

/-- No mapping can be loaded, and the session goes on behind each of the lines. -/
theorem lines_answered_alone_sample :
    Quits " :q " ∧
      transcript causesSample "mapping.json" entrySample
          (troubledSample ++ " :q " :: ["a is null"]) =
        [title,
         "⚠️ 无法加载JSON配置文件 (无法解析JSON配置文件 mapping.json: expected value at line 1 column 1)" ++
           ", 使用默认配置",
         "输入 :help 查看帮助", "",
         "✗ Expected ')' but reached the end of the filter",
         "✗ 无法解析JSON token 列表: missing field `value` at line 1 column 19",
         "\x7b\"channels.a.data\":\x7b\"$eq\":null\x7d\x7d",
         "⚠️ 忽略了表达式之后的 2 个 token: ) b"] ∧
      replies causesSample "mapping.json" entrySample troubledSample =
        replies causesSample "other.json" emptyObject troubledSample := by
  have quits : Quits " :q " := by decide
  have failed := load_entrySample causesSample "mapping.json"
  have alone := lines_answered_alone causesSample "mapping.json" entrySample troubledSample
  refine ⟨quits, ?_, alone.2.2.2.2 _ "other.json" failed⟩
  rw [alone.2.2.2.1 " :q " ["a is null"] quits]
  rw [transcript, header, mapping, failed]
  decide +kernel

end ChannelFilter.Session
