import PgBalancer.Lib.Numeral

/-!
# The JSON writer

A writer has a buffer and a stack of the elements that are open, each with the number of values it
holds.  A value is preceded by a comma unless it is the first one of its element.

* `putText_holding`: a value is added behind those its element holds;
* `int_array_holding`: so is an array of numbers as a whole.
-/

namespace PgBalancer.Json

open List

open Numeral (formatInt)

/-- The bytes of a text. -/
abbrev Bytes := List UInt8

/-- The bytes of a literal. -/
def ascii (s : String) : Bytes := s.toList.map Char.toUInt8

/-- A NUL-terminated string. -/
structure CString where
  bytes : Bytes
  no_nul : 0 ∉ bytes

/-- `JWElementType` -/
inductive JWElementType
  | object
  | array
  deriving DecidableEq

/-- `JWStack` -/
structure JWStack where
  elementType : JWElementType
  elementCount : ℕ
  deriving DecidableEq

/-- `JsonNode` -/
structure JsonNode where
  buf : Bytes
  /-- the innermost element first -/
  stack : List JWStack
  deriving DecidableEq

/-- `MAX_STACK_DEPTH` -/
def maxStackDepth : ℕ := 10

/-! ## The functions of the source -/

/-- `jw_get_current_element_count` -/
def jwGetCurrentElementCount (node : JsonNode) : ℤ :=
  match node.stack with
  | [] => -1
  | element :: _ => element.elementCount

/-- `jw_inc_current_element_count` -/
def jwIncCurrentElementCount (node : JsonNode) : JsonNode :=
  match node.stack with
  | [] => node
  | element :: rest =>
    { node with stack := { element with elementCount := element.elementCount + 1 } :: rest }

/-- `jw_get_current_element_type` -/
def jwGetCurrentElementType (node : JsonNode) : Option JWElementType :=
  node.stack.head?.map JWStack.elementType

/-- `appendStringInfo` -/
def appendBytes (node : JsonNode) (text : Bytes) : JsonNode := { node with buf := node.buf ++ text }

/-- The comma before a value that is not the first one. -/
def putComma (node : JsonNode) : JsonNode :=
  if jwGetCurrentElementCount node > 0 then appendBytes node [44] else node

/-- The body of the functions that put a value: the checks, the comma, the text and the count. -/
def putText (node : JsonNode) (type : JWElementType) (text : Bytes) : Bool × JsonNode :=
  if jwGetCurrentElementCount node < 0 then (false, node)
  else if jwGetCurrentElementType node ≠ some type then (false, node)
  else (true, jwIncCurrentElementCount (appendBytes (putComma node) text))

/-- A byte of a string, escaped where it has to be. -/
def escapeByte (b : UInt8) : Bytes :=
  if b = 34 then [92, 34]
  else if b = 92 then [92, 92]
  else if b = 8 then [92, 98]
  else if b = 12 then [92, 102]
  else if b = 10 then [92, 110]
  else if b = 13 then [92, 114]
  else if b = 9 then [92, 116]
  else [b]

/-- `jw_put_string_escape` -/
def jwPutStringEscape (string : CString) : Bytes := 34 :: (string.bytes.flatMap escapeByte ++ [34])

/-- `"\"%s\""` -/
def quoted (string : CString) : Bytes := 34 :: (string.bytes ++ [34])

/-- A function with a key that is written as it is. -/
def putKeyed (node : JsonNode) (key : Option CString) (text : Bytes) : Bool × JsonNode :=
  match key with
  | none => (false, node)
  | some key => putText node .object (quoted key ++ 58 :: text)

/-- `jw_put_string` -/
def jwPutString (node : JsonNode) (key value : Option CString) : Bool × JsonNode :=
  match key, value with
  | some key, some value =>
    putText node .object (jwPutStringEscape key ++ 58 :: jwPutStringEscape value)
  | _, _ => (false, node)

/-- `jw_put_int` -/
def jwPutInt (node : JsonNode) (key : Option CString) (value : Int32) : Bool × JsonNode :=
  putKeyed node key (formatInt value.toInt)

/-- `jw_put_int_value` -/
def jwPutIntValue (node : JsonNode) (value : Int32) : Bool × JsonNode :=
  putText node .array (formatInt value.toInt)

/-- The bracket that opens an element. -/
def JWElementType.opening : JWElementType → UInt8
  | .object => 123
  | .array => 91

/-- The bracket that closes it. -/
def JWElementType.closing : JWElementType → UInt8
  | .object => 125
  | .array => 93

/-- `jw_start_element` -/
def jwStartElement (node : JsonNode) (element : JWElementType) (key : Option CString) :
    Bool × JsonNode :=
  if node.stack.length ≥ maxStackDepth then (false, node)
  else
    let text := match key with
      | none => [element.opening]
      | some key => quoted key ++ [58, 32, element.opening]
    let node := jwIncCurrentElementCount (appendBytes (putComma node) text)
    (true, { node with stack := ⟨element, 0⟩ :: node.stack })

/-- `jw_start_array` -/
def jwStartArray (node : JsonNode) (key : Option CString) : Bool × JsonNode :=
  if jwGetCurrentElementType node = some .array then jwStartElement node .array none
  else jwStartElement node .array key

/-- `jw_end_element` -/
def jwEndElement (node : JsonNode) : Bool × JsonNode :=
  match node.stack with
  | [] => (false, node)
  | element :: rest =>
    (true, appendBytes { node with stack := rest } [element.elementType.closing])

/-- The loop of `jw_finish_document`, over the elements that are open. -/
def finishElements (buf : Bytes) : List JWStack → Bytes
  | [] => buf
  | element :: rest => finishElements (buf ++ [element.elementType.closing]) rest

/-- `jw_finish_document`: all open elements are closed. -/
def jwFinishDocument (node : JsonNode) : JsonNode := ⟨finishElements node.buf node.stack, []⟩

/-- `jw_create` -/
def jwCreate (rootElement : JWElementType) : JsonNode :=
  (jwStartElement ⟨[], []⟩ rootElement none).2

/-- `jw_create_with_object` -/
def jwCreateWithObject : JsonNode := jwCreate .object

/-! ## What is written -/

/-- Texts with commas between them. -/
def commaSeparated : List Bytes → Bytes
  | [] => []
  | text :: texts => text ++ texts.flatMap (44 :: ·)

/-- The comma behind these texts. -/
def separator (texts : List Bytes) : Bytes := if texts = [] then [] else [44]

variable {texts : List Bytes}

theorem commaSeparated_concat (text : Bytes) :
    commaSeparated (texts ++ [text]) = commaSeparated texts ++ separator texts ++ text := by
  cases texts with
  | nil => simp [commaSeparated, separator]
  | cons first texts => simp [commaSeparated, separator]

/-- A writer whose innermost element holds these texts. -/
def JsonNode.holding (buf : Bytes) (type : JWElementType) (texts : List Bytes)
    (outer : List JWStack) : JsonNode :=
  ⟨buf ++ commaSeparated texts, ⟨type, texts.length⟩ :: outer⟩

variable {buf : Bytes} {outer : List JWStack}

theorem putComma_holding (type : JWElementType) : putComma (.holding buf type texts outer) =
      appendBytes (.holding buf type texts outer) (separator texts) := by
  cases texts with
  | nil => simp [putComma, jwGetCurrentElementCount, JsonNode.holding, separator, appendBytes]
  | cons first texts =>
    have hpos : jwGetCurrentElementCount (.holding buf type (first :: texts) outer) > 0 :=
      Int.natCast_pos.2 (Nat.succ_pos texts.length)
    rw [putComma, if_pos hpos]
    rfl

theorem putText_holding (buf text : Bytes) (type : JWElementType) (texts : List Bytes)
    (outer : List JWStack) : putText (.holding buf type texts outer) type text =
      (true, .holding buf type (texts ++ [text]) outer) := by
  have hcount : ¬ jwGetCurrentElementCount (.holding buf type texts outer) < 0 :=
    not_lt.2 (Int.natCast_nonneg _)
  have htype : ¬ jwGetCurrentElementType (.holding buf type texts outer) ≠ some type :=
    not_not.2 rfl
  rw [putText, if_neg hcount, if_neg htype, putComma_holding]
  simp [appendBytes, jwIncCurrentElementCount, JsonNode.holding, commaSeparated_concat]

theorem foldl_jwPutIntValue (values : List Int32) :
    values.foldl (fun node value => (jwPutIntValue node value).2)
      (.holding buf .array texts outer) =
      .holding buf .array (texts ++ values.map fun value => formatInt value.toInt) outer := by
  induction values generalizing texts with
  | nil => simp
  | cons value values ih =>
    rw [foldl_cons, jwPutIntValue, putText_holding, ih]
    simp

theorem int_array_holding (buf : Bytes) (key : CString) (values : List Int32) (texts : List Bytes)
    (outer : List JWStack) (hdepth : outer.length + 1 < maxStackDepth) :
    (jwEndElement (values.foldl (fun node value => (jwPutIntValue node value).2)
      (jwStartArray (.holding buf .object texts outer) (some key)).2)).2 =
    .holding buf .object (texts ++ [quoted key ++ 58 :: 32 :: 91 ::
      (commaSeparated (values.map fun value => formatInt value.toInt) ++ [93])]) outer := by
  have htype : ¬ jwGetCurrentElementType (.holding buf .object texts outer) = some .array := by
    simp [jwGetCurrentElementType, JsonNode.holding]
  have hlen : ¬ (JsonNode.holding buf .object texts outer).stack.length ≥ maxStackDepth :=
    not_le.2 hdepth
  have hstart : (jwStartArray (.holding buf .object texts outer) (some key)).2 =
      .holding (buf ++ commaSeparated texts ++ separator texts ++ quoted key ++ [58, 32, 91]) .array
        [] (⟨.object, texts.length + 1⟩ :: outer) := by
    rw [jwStartArray, if_neg htype, jwStartElement, if_neg hlen, putComma_holding]
    simp [appendBytes, jwIncCurrentElementCount, JsonNode.holding, commaSeparated,
      JWElementType.opening]
  rw [hstart, foldl_jwPutIntValue]
  simp [jwEndElement, appendBytes, JsonNode.holding, commaSeparated_concat, JWElementType.closing]

/-! ## Lengths -/

theorem length_le_escaped (string : CString) :
    string.bytes.length ≤ (jwPutStringEscape string).length := by
  have hbytes : ∀ bytes : Bytes, bytes.length ≤ (bytes.flatMap escapeByte).length := by
    intro bytes
    induction bytes with
    | nil => exact le_rfl
    | cons b bytes ih =>
      have hpos : 0 < (escapeByte b).length := by
        unfold escapeByte
        split_ifs <;> exact Nat.succ_pos _
      rw [flatMap_cons, length_append, length_cons]
      omega
  have := hbytes string.bytes
  simp only [jwPutStringEscape, length_cons, length_append]
  omega

theorem length_le_commaSeparated {texts : List Bytes} {text : Bytes} (h : text ∈ texts) :
    text.length ≤ (commaSeparated texts).length := by
  cases texts with
  | nil => cases h
  | cons first texts =>
    rw [commaSeparated, length_append]
    rcases mem_cons.1 h with rfl | h
    · omega
    · have hsub := (sublist_flatten_of_mem (mem_map_of_mem (f := (44 :: ·)) h)).length_le
      rw [← flatMap_def, length_cons] at hsub
      omega

theorem count_le_commaSeparated (texts : List Bytes) (h : ∀ text ∈ texts, text ≠ []) :
    texts.length ≤ (commaSeparated texts).length := by
  cases texts with
  | nil => exact le_rfl
  | cons first texts =>
    have hpos := length_pos_iff.2 (h first mem_cons_self)
    have hrest : texts.length ≤ (texts.flatMap (44 :: ·)).length := by
      induction texts with
      | nil => exact le_rfl
      | cons second texts ih =>
        have := ih fun text hmem => h text (by simp at hmem ⊢; tauto)
        simp only [flatMap_cons, length_append, length_cons]
        omega
    rw [commaSeparated, length_append, length_cons]
    omega

end PgBalancer.Json
