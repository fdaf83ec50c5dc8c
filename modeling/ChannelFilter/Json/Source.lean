import ChannelFilter.Json.Lexeme

/-!
# Document text as a tree

`Source` is the shape of a document text: what values it nests and in which order, with number
literals and strings still as they are spelled. A reader of tokens or of a field mapping decides
what it needs of a source; what it skips only has to be well formed, so a number literal may be of
any size there and a string may denote no text.

The tree is built by a machine that takes one lexical element at a time and holds the arrays and
objects that are still open on a stack. There is no limit to the nesting.
-/
namespace ChannelFilter.Json

/-- The shape of a document text. A string or key is `none` if it denotes no text. -/
inductive Source
  | null
  | bool (value : Bool)
  | number (literal : List Char)
  | string (text : Option String)
  | array (items : List Source)
  | object (fields : List (Option String × Source))

namespace Source

/-- What holds of a tree as soon as it holds of its items and fields holds of all trees. -/
@[elab_as_elim, induction_eliminator]
theorem induction {P : Source → Prop} (null : P .null) (bool : ∀ value, P (.bool value))
    (number : ∀ literal, P (.number literal)) (string : ∀ text, P (.string text))
    (array : ∀ items, (∀ item ∈ items, P item) → P (.array items))
    (object : ∀ fields, (∀ field ∈ fields, P field.2) → P (.object fields)) (source : Source) :
    P source :=
  @Source.rec P (fun items => ∀ item ∈ items, P item) (fun fields => ∀ field ∈ fields, P field.2)
    (fun field => P field.2) null bool number string array object (by simp)
    (fun _ _ first rest => List.forall_mem_cons.2 ⟨first, rest⟩) (by simp)
    (fun _ _ first rest => List.forall_mem_cons.2 ⟨first, rest⟩) (fun _ _ value => value) source

/-- An array or object that is still open while one of its values is being read. What was read
before that value is listed with the latest first. -/
inductive Frame
  | array (before : List Source)
  | object (before : List (Option String × Source)) (key : Option String)

inductive Due
  /-- A value. -/
  | value
  /-- The first value of an array, or its end. -/
  | firstItem
  /-- The first key of an object, or its end. -/
  | firstKey
  /-- A key, after the given fields, the latest first. -/
  | key (before : List (Option String × Source))
  /-- A colon after the given key. -/
  | colon (before : List (Option String × Source)) (key : Option String)
  /-- Whatever may follow the given complete value. -/
  | done (value : Source)

/-- The open arrays and objects, innermost first, and what the next element has to be. -/
structure State where
  frames : List Frame
  due : Due

/-- The state in which a value is due and `lexeme` comes. -/
def stepValue (frames : List Frame) : Lexeme → Option State
  | .null => some ⟨frames, .done .null⟩
  | .bool value => some ⟨frames, .done (.bool value)⟩
  | .number literal => some ⟨frames, .done (.number literal)⟩
  | .string text => some ⟨frames, .done (.string text)⟩
  | .openBracket => some ⟨frames, .firstItem⟩
  | .openBrace => some ⟨frames, .firstKey⟩
  | _ => none

/-- The state in which a value is complete inside the innermost frame and `lexeme` comes. -/
def stepDone (value : Source) : List Frame → Lexeme → Option State
  | .array before :: frames, .comma => some ⟨.array (value :: before) :: frames, .value⟩
  | .array before :: frames, .closeBracket =>
    some ⟨frames, .done (.array (value :: before).reverse)⟩
  | .object before key :: frames, .comma => some ⟨frames, .key ((key, value) :: before)⟩
  | .object before key :: frames, .closeBrace =>
    some ⟨frames, .done (.object ((key, value) :: before).reverse)⟩
  | _, _ => none

def State.step (state : State) (lexeme : Lexeme) : Option State :=
  match state.due, lexeme with
  | .value, lexeme => stepValue state.frames lexeme
  | .firstItem, .closeBracket => some ⟨state.frames, .done (.array [])⟩
  | .firstItem, lexeme => stepValue (.array [] :: state.frames) lexeme
  | .firstKey, .closeBrace => some ⟨state.frames, .done (.object [])⟩
  | .firstKey, .string key => some ⟨state.frames, .colon [] key⟩
  | .key before, .string key => some ⟨state.frames, .colon before key⟩
  | .colon before key, .colon => some ⟨.object before key :: state.frames, .value⟩
  | .done value, lexeme => stepDone value state.frames lexeme
  | _, _ => none

/-- The state after the given elements, or `none` if one of them cannot stand where it does. -/
def State.run : State → List Lexeme → Option State
  | state, [] => some state
  | state, lexeme :: lexemes => (state.step lexeme).bind (·.run lexemes)

def State.result? : State → Option Source
  | ⟨[], .done value⟩ => some value
  | _ => none

/-- The tree of a sequence of lexical elements that is exactly one value. -/
def ofLexemes? (lexemes : List Lexeme) : Option Source :=
  (State.run ⟨[], .value⟩ lexemes).bind State.result?

def read? (text : String) : Option Source :=
  (Lexeme.scan text.toList).bind ofLexemes?

def text? : Source → Option String
  | .string text => text
  | _ => none

/-- The values of the fields with the given key, in order. -/
def valuesAt (key : String) (fields : List (Option String × Source)) : List Source :=
  (fields.filter (·.1 == some key)).map (·.2)

/-- Whether every key denotes a text and none of the known keys is repeated. -/
def keysOk (known : List String) (fields : List (Option String × Source)) : Bool :=
  fields.all (·.1.isSome) && known.all fun key => decide ((valuesAt key fields).length ≤ 1)

section Fields
variable {key : String} {known : List String} {fields others : List (Option String × Source)}

theorem valuesAt_append (key : String) (fields others : List (Option String × Source)) :
    valuesAt key (fields ++ others) = valuesAt key fields ++ valuesAt key others := by
  simp only [valuesAt, List.filter_append, List.map_append]

theorem valuesAt_perm (order : fields.Perm others) (key : String) :
    (valuesAt key fields).Perm (valuesAt key others) :=
  (order.filter _).map _

theorem valuesAt_eq_nil (absent : ∀ field ∈ fields, field.1 ≠ some key) :
    valuesAt key fields = [] := by
  simpa [valuesAt] using absent

theorem keysOk_iff :
    keysOk known fields = true ↔
      (∀ field ∈ fields, field.1.isSome = true) ∧
        ∀ key ∈ known, (valuesAt key fields).length ≤ 1 := by
  simp only [keysOk, Bool.and_eq_true, List.all_eq_true, decide_eq_true_iff]

end Fields

/-- What all elements of a list read as, or `none` if one of them does not read. -/
def readAll? {α : Type} (read : Source → Option α) (items : List Source) : Option (List α) :=
  items.mapM read

end Source

end ChannelFilter.Json
