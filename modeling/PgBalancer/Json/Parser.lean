import PgBalancer.Json.Writer

/-!
# The JSON parser

`json_parse` reads its input byte by byte and keeps a set of flags, the values that are open and the
string or number that is being read.  The source goes over the input twice, first to check it and to
measure the values and then to fill them in; here the values are built at once.  Bytes that the
source reads ahead, in a literal or after `\u`, are awaited in a state of their own.

* `jsonParse_of_renders` — **a text that renders a value is parsed to it**.
-/

namespace PgBalancer.Json

open Numeral Reader List

/-! ## Values -/

/-- A `double`, by the parts it was read from. -/
structure Decimal where
  negative : Bool
  whole : ℤ
  fraction : ℤ
  digits : ℕ
  exponent : ℤ
  deriving DecidableEq

/-- `json_value` -/
inductive Value
  | null
  | boolean (b : Bool)
  | integer (n : ℤ)
  | double (d : Decimal)
  | string (bytes : Bytes)
  | array (values : List Value)
  | object (entries : List (Bytes × Value))

/-! ## The state -/

/-- The flags about what is expected next. -/
structure Flags where
  needComma : Bool := false
  seekValue : Bool := false
  escaped : Bool := false
  string : Bool := false
  needColon : Bool := false
  done : Bool := false
  /-- the end of the input was read -/
  ended : Bool := false
  deriving DecidableEq

/-- The flags and counters of the number that is being read. -/
structure Num where
  negative : Bool := false
  zero : Bool := false
  e : Bool := false
  eGotSign : Bool := false
  eNegative : Bool := false
  numDigits : ℕ := 0
  numE : ℤ := 0
  numFraction : ℤ := 0
  deriving DecidableEq

/-- A value that is not complete. -/
inductive Open
  | object (entries : List (Bytes × Value)) (name : Bytes)
  | array (values : List Value)
  | string
  | number (integer : ℤ) (double : Option Decimal)

/-- Bytes that are read ahead. -/
inductive Pending
  | literal (expected : Bytes) (value : Value)
  /-- four hexadecimal digits, after the first half of a pair if there is one -/
  | unicode (high : Option ℕ) (digits : List ℕ)
  | lowHalf (high : ℕ) (expected : Bytes)

/-- The variables of the loop in `json_parse_ex`. -/
structure State where
  flags : Flags
  num : Num
  /-- `top` and its ancestors -/
  stack : List Open
  /-- the string that is being read -/
  str : Bytes
  pending : Option Pending
  root : Option Value

/-- `uint_max`, with the limit of how much can be added before the next check -/
def uintMax : ℕ := 4294967287

/-- An `int64` -/
def wrapInt64 (x : ℤ) : ℤ := x.bmod (2 ^ 64)

/-- The cases of `whitespace`. -/
def isWhitespace (b : UInt8) : Bool := b = 10 || b = 32 || b = 9 || b = 13

/-- `flag_next`: a value is complete and becomes part of its parent. -/
def next (s : State) (value : Value) (parents : List Open) : Option State :=
  match parents with
  | [] =>
    some { s with
      flags := { s.flags with needComma := true, done := true }
      stack := []
      root := some value }
  | .array values :: up =>
    if values.length + 1 > uintMax then none
    else some { s with
      flags := { s.flags with needComma := true, seekValue := true }
      stack := .array (values ++ [value]) :: up }
  | .object entries name :: up =>
    if entries.length + 1 > uintMax then none
    else some { s with
      flags := { s.flags with needComma := true }
      stack := .object (entries ++ [(name, value)]) [] :: up }
  | _ => none

/-! ## Strings -/

/-- `string_add` -/
def stringAdd (s : State) (bytes : Bytes) : State := { s with str := s.str ++ bytes }

/-- `hex_value` -/
def hexValue (c : UInt8) : Option ℕ :=
  if isDigit c then some (digitValue c)
  else if 97 ≤ c ∧ c ≤ 102 then some (c.toNat - 87)
  else if 65 ≤ c ∧ c ≤ 70 then some (c.toNat - 55)
  else none

/-- A character in UTF-8. -/
def encodeUchar (uchar : ℕ) : Bytes :=
  if uchar ≤ 0x7F then [UInt8.ofNat uchar]
  else if uchar ≤ 0x7FF then
    [UInt8.ofNat (0xC0 ||| uchar >>> 6), UInt8.ofNat (0x80 ||| (uchar &&& 0x3F))]
  else if uchar ≤ 0xFFFF then
    [UInt8.ofNat (0xE0 ||| uchar >>> 12), UInt8.ofNat (0x80 ||| (uchar >>> 6 &&& 0x3F)),
      UInt8.ofNat (0x80 ||| (uchar &&& 0x3F))]
  else
    [UInt8.ofNat (0xF0 ||| uchar >>> 18), UInt8.ofNat (0x80 ||| (uchar >>> 12 &&& 0x3F)),
      UInt8.ofNat (0x80 ||| (uchar >>> 6 &&& 0x3F)), UInt8.ofNat (0x80 ||| (uchar &&& 0x3F))]

/-- The number that four hexadecimal digits denote. -/
def hexNumber (digits : List ℕ) : ℕ := digits.foldl (fun acc d => acc * 16 + d) 0

/-- The four digits after `\u` are complete. -/
def endUnicode (s : State) (high : Option ℕ) (uchar : ℕ) : State :=
  match high with
  | some high =>
    stringAdd { s with pending := none }
      (encodeUchar (0x10000 ||| (high &&& 0x3FF) <<< 10 ||| (uchar &&& 0x3FF)))
  | none =>
    if uchar &&& 0xF800 = 0xD800 then { s with pending := some (.lowHalf uchar [92, 117]) }
    else stringAdd { s with pending := none } (encodeUchar uchar)

/-- A byte within a literal or an escape. -/
def stepPending (s : State) (b : UInt8) : Pending → Option State
  | .literal (c :: expected) value =>
    if b ≠ c then none
    else if expected = [] then next { s with pending := none } value s.stack
    else some { s with pending := some (.literal expected value) }
  | .literal [] _ => none
  | .unicode high digits =>
    match hexValue b with
    | none => none
    | some d =>
      if digits.length = 3 then some (endUnicode s high (hexNumber (digits ++ [d])))
      else some { s with pending := some (.unicode high (digits ++ [d])) }
  | .lowHalf high (c :: expected) =>
    if b ≠ c then none
    else if expected = [] then some { s with pending := some (.unicode (some high) []) }
    else some { s with pending := some (.lowHalf high expected) }
  | .lowHalf _ [] => none

/-- The byte after a backslash. -/
def stepEscaped (s : State) (b : UInt8) : State :=
  let s := { s with flags := { s.flags with escaped := false } }
  if b = 98 then stringAdd s [8]
  else if b = 102 then stringAdd s [12]
  else if b = 110 then stringAdd s [10]
  else if b = 114 then stringAdd s [13]
  else if b = 116 then stringAdd s [9]
  else if b = 117 then { s with pending := some (.unicode none []) }
  else stringAdd s [b]

/-- The quote at the end of a string or of a name. -/
def endString (s : State) : Option State :=
  match s.stack with
  | .object entries _ :: up =>
    some { s with
      flags := { s.flags with string := false, seekValue := true, needColon := true }
      stack := .object entries s.str :: up }
  | .string :: up => next { s with flags := { s.flags with string := false } } (.string s.str) up
  | _ => none

/-- A byte within a string. -/
def stepString (s : State) (b : UInt8) : Option State :=
  if b = 0 then none
  else if s.str.length > uintMax then none
  else if s.flags.escaped then some (stepEscaped s b)
  else if b = 92 then some { s with flags := { s.flags with escaped := true } }
  else if b = 34 then endString s
  else some (stringAdd s [b])

/-! ## Numbers -/

/-- A byte of a number: more of it is read, or it has ended. -/
inductive NumberStep
  | more (num : Num) (integer : ℤ) (double : Option Decimal)
  | complete (value : Value)

/-- The value of a number that has ended. -/
def endNumber (num : Num) (integer : ℤ) : Option Decimal → Value
  | none => .integer (if num.negative then wrapInt64 (-integer) else integer)
  | some d => .double { d with negative := num.negative }

/-- A digit of a number. -/
def stepDigit (num : Num) (integer : ℤ) (double : Option Decimal) (b : UInt8) :
    Option NumberStep :=
  let num := { num with numDigits := num.numDigits + 1 }
  if num.e then
    some (.more { num with eGotSign := true, numE := wrapInt64 (num.numE * 10 + digitValue b) }
      integer double)
  else match double with
    | none =>
      if num.zero then none
      else some (.more { num with zero := num.numDigits = 1 && b = 48 }
        (wrapInt64 (integer * 10 + digitValue b)) none)
    | some d =>
      some (.more { num with numFraction := wrapInt64 (num.numFraction * 10 + digitValue b) }
        integer (some d))

/-- The end of the digits before an exponent. -/
def endMantissa (num : Num) (integer : ℤ) (double : Option Decimal) (b : UInt8) :
    Option NumberStep :=
  if double.isSome ∧ num.numDigits = 0 then none
  else
    let double := double.map fun d =>
      { d with fraction := num.numFraction, digits := num.numDigits }
    if b = 101 ∨ b = 69 then
      some (.more { num with e := true, numDigits := 0, zero := false } integer
        (some (double.getD ⟨false, integer, 0, 0, 0⟩)))
    else some (.complete (endNumber num integer double))

/-- A byte within a number. -/
def stepNumber (num : Num) (integer : ℤ) (double : Option Decimal) (b : UInt8) :
    Option NumberStep :=
  if isDigit b then stepDigit num integer double b
  else if (b = 43 ∨ b = 45) ∧ num.e ∧ ¬ num.eGotSign then
    some (.more { num with eGotSign := true, eNegative := b = 45 || num.eNegative } integer double)
  else if b = 46 ∧ double = none then
    if num.numDigits = 0 then none
    else some (.more { num with numDigits := 0 } integer (some ⟨false, integer, 0, 0, 0⟩))
  else if ¬ num.e then endMantissa num integer double b
  else if num.numDigits = 0 then none
  else some (.complete (endNumber num integer (double.map fun d =>
    { d with exponent := if num.eNegative then -num.numE else num.numE })))

/-! ## One byte -/

/-- The first byte of a value. -/
def startValue (s : State) (b : UInt8) : Option State :=
  if b = 123 then some { s with stack := .object [] [] :: s.stack }
  else if b = 91 then
    some { s with flags := { s.flags with seekValue := true }, stack := .array [] :: s.stack }
  else if b = 34 then
    some { s with flags := { s.flags with string := true }, stack := .string :: s.stack, str := [] }
  else if b = 116 then some { s with pending := some (.literal [114, 117, 101] (.boolean true)) }
  else if b = 102 then
    some { s with pending := some (.literal [97, 108, 115, 101] (.boolean false)) }
  else if b = 110 then some { s with pending := some (.literal [117, 108, 108] .null) }
  else if b = 45 then
    some { s with num := { negative := true }, stack := .number 0 none :: s.stack }
  else if isDigit b then
    match stepDigit {} 0 none b with
    | some (.more num integer double) =>
      some { s with num := num, stack := .number integer double :: s.stack }
    | _ => none
  else none

/-- A byte where a value may begin. -/
def seekValue (s : State) (b : UInt8) : Option State :=
  if isWhitespace b then some s
  else if b = 93 then
    match s.stack with
    | .array values :: up =>
      next { s with flags := { s.flags with needComma := false, seekValue := false } }
        (.array values) up
    | _ => none
  else if s.flags.needComma then
    if b = 44 then some { s with flags := { s.flags with needComma := false } } else none
  else if s.flags.needColon then
    if b = 58 then some { s with flags := { s.flags with needColon := false } } else none
  else startValue { s with flags := { s.flags with seekValue := false } } b

/-- A byte between the entries of an object. -/
def inObject (s : State) (entries : List (Bytes × Value)) (up : List Open) (b : UInt8) :
    Option State :=
  if isWhitespace b then some s
  else if b = 34 then
    if s.flags.needComma then none
    else some { s with flags := { s.flags with string := true }, str := [] }
  else if b = 125 then
    next { s with flags := { s.flags with needComma := false } } (.object entries) up
  else if b = 44 ∧ s.flags.needComma then
    some { s with flags := { s.flags with needComma := false } }
  else none

/-- A byte outside of strings and numbers. -/
def stepPlain (s : State) (b : UInt8) : Option State :=
  if s.flags.done then
    if b = 0 then some { s with flags := { s.flags with ended := true } }
    else if isWhitespace b then some s
    else none
  else if s.flags.seekValue then seekValue s b
  else match s.stack with
    | .object entries _ :: up => inObject s entries up b
    | _ => some s

/-- One turn of the loop. -/
def step (s : State) (b : UInt8) : Option State :=
  if s.flags.ended then some s
  else match s.pending with
    | some pending => stepPending s b pending
    | none =>
      if s.flags.string then stepString s b
      else match s.stack with
        | .number integer double :: up =>
          match stepNumber s.num integer double b with
          | none => none
          | some (.more num integer double) =>
            some { s with num := num, stack := .number integer double :: up }
          -- the byte is looked at again
          | some (.complete value) => (next s value up).bind fun s => stepPlain s b
        | _ => stepPlain s b

/-- A value is looked for at the top level. -/
def start : State := ⟨{ seekValue := true }, {}, [], [], none, none⟩

/-- The text after a byte order mark -/
def skipBom : Bytes → Bytes
  | 0xEF :: 0xBB :: 0xBF :: rest => rest
  | text => text

/-- `json_parse`, which sees the zero byte behind the text. -/
def jsonParse (text : Bytes) : Option Value :=
  ((skipBom text ++ [0]).foldlM step start).bind fun s => if s.flags.ended then s.root else none

/-! ## Access to an object -/

/-- `tolower` -/
def lower (b : UInt8) : UInt8 := if 65 ≤ b ∧ b ≤ 90 then b + 32 else b

/-- The bytes before the first zero byte -/
def cstring (bytes : Bytes) : Bytes := bytes.takeWhile (· ≠ 0)

/-- `strcasecmp` returns 0. -/
def strcasecmpEq (a b : Bytes) : Bool := (cstring a).map lower = (cstring b).map lower

/-- `json_get_value_for_key`: the first entry with the name, in any case. -/
def jsonGetValueForKey (source : Value) (key : Bytes) : Option Value :=
  match source with
  | .object entries => (entries.find? fun entry => strcasecmpEq entry.1 key).map Prod.snd
  | _ => none

/-- `json_get_int_value_for_key` -/
def jsonGetIntValueForKey (source : Value) (key : Bytes) : Option Int32 :=
  match jsonGetValueForKey source key with
  | some (.integer n) => some (Int32.ofInt n)
  | _ => none

/-- `json_get_string_value_for_key` -/
def jsonGetStringValueForKey (source : Value) (key : Bytes) : Option Bytes :=
  match jsonGetValueForKey source key with
  | some (.string bytes) => some bytes
  | _ => none

/-! ## Where the parser stands -/

/-- Between two bytes, outside of strings. -/
def Standing (flags : Flags) (stack : List Open) (s : State) : Prop :=
  s.flags = flags ∧ s.stack = stack ∧ s.pending = none

/-- A value is expected. -/
def Seek (parents : List Open) : State → Prop := Standing { seekValue := true } parents

/-- A string or a name is being read. -/
def InString (stack : List Open) (str : Bytes) (s : State) : Prop :=
  Standing { string := true } stack s ∧ s.str = str

/-- The value was read, and became part of its parent. -/
def After (value : Value) : List Open → State → Prop
  | [], s => Standing { needComma := true, done := true } [] s ∧ s.root = some value
  | .array values :: up, s =>
    Standing { needComma := true, seekValue := true } (.array (values ++ [value]) :: up) s
  | .object entries name :: up, s =>
    Standing { needComma := true } (.object (entries ++ [(name, value)]) [] :: up) s
  | _, _ => False

variable {stack parents : List Open} {s : State}

theorem Standing.eq {flags : Flags} (h : Standing flags stack s) :
    s = ⟨flags, s.num, stack, s.str, none, s.root⟩ := by
  obtain ⟨hflags, hstack, hpending⟩ := h
  rw [← hflags, ← hstack, ← hpending]

variable {str text : Bytes}

theorem InString.eq (h : InString stack str s) :
    s = ⟨{ string := true }, s.num, stack, str, none, s.root⟩ := by
  rw [← h.2]
  exact h.1.eq

/-- The parent is not full. -/
def Room : List Open → Prop
  | [] => True
  | .array values :: _ => values.length < uintMax
  | .object entries _ :: _ => entries.length < uintMax
  | _ => False

theorem next_after (value : Value) (hflags : s.flags = {}) (hpending : s.pending = none)
    (hroom : Room parents) : ∃ t, next s value parents = some t ∧ After value parents t := by
  obtain ⟨flags, num, stack, str, pending, root⟩ := s
  subst hflags hpending
  match parents, hroom with
  | [], _ => exact ⟨_, rfl, ⟨rfl, rfl, rfl⟩, rfl⟩
  | .object entries name :: up, hroom =>
    have hle : ¬ entries.length + 1 > uintMax := not_lt.2 hroom
    exact ⟨_, if_neg hle, rfl, rfl, rfl⟩
  | .array values :: up, hroom =>
    have hle : ¬ values.length + 1 > uintMax := not_lt.2 hroom
    exact ⟨_, if_neg hle, rfl, rfl, rfl⟩

/-! ## Steps -/

section Steps

variable {parents : List Open} {s : State} {b : UInt8} {flags : Flags}

theorem step_of_room (hroom : Room parents) (h : Standing flags parents s)
    (hended : flags.ended = false) (hstring : flags.string = false) : step s b = stepPlain s b := by
  rw [h.eq]
  match parents, hroom with
  | [], _ => simp [step, hended, hstring]
  | .object .. :: _, _ => simp [step, hended, hstring]
  | .array _ :: _, _ => simp [step, hended, hstring]

theorem step_seek (hroom : Room parents) (h : Seek parents s) : step s b = seekValue s b := by
  rw [step_of_room hroom h rfl rfl, stepPlain, h.1]
  rfl

/-- Where a value is expected and the byte is not a space, a bracket or a separator. -/
theorem step_seek_start (hroom : Room parents) (h : Seek parents s)
    (hspace : isWhitespace b = false)
    (hb : b ≠ 93) : step s b = startValue { s with flags := {} } b := by
  rw [step_seek hroom h, seekValue, h.1, if_neg (by simp [hspace]), if_neg hb]
  rfl

end Steps

/-- The byte ends a number and does not belong to a string. -/
def Ends (input : Bytes) : Prop := ∃ b rest, input = b :: rest ∧ b ∈ [0, 44, 93, 125]

/-- The text of a value: wherever a value is expected, the parser reads it and goes on behind the
value. -/
def Renders (text : Bytes) (value : Value) : Prop :=
  ∀ parents, Room parents → ∀ input Q, Ends input → Reads step (After value parents) input Q →
    Reads step (Seek parents) (text ++ input) Q

/-! ## Strings -/

section Strings

variable {stack : List Open} {str : Bytes} {s : State} {b c : UInt8} {num : Num}
  {root : Option Value}

theorem step_inString (h : InString stack str s) (hb : b ≠ 0) (hlen : str.length ≤ uintMax) :
    step s b =
      if b = 92 then some ⟨{ string := true, escaped := true }, s.num, stack, str, none, s.root⟩
      else if b = 34 then endString s
      else some ⟨{ string := true }, s.num, stack, str ++ [b], none, s.root⟩ := by
  rw [h.eq]
  simp [step, stepString, hb, not_lt.2 hlen, stringAdd]

theorem step_escaped (hc : c ≠ 0) (hlen : str.length ≤ uintMax) :
    step ⟨{ string := true, escaped := true }, num, stack, str, none, root⟩ c =
      some (stepEscaped ⟨{ string := true, escaped := true }, num, stack, str, none, root⟩ c) := by
  simp [step, stepString, hc, not_lt.2 hlen]

theorem reads_escaped (hc : c ≠ 0) (hlen : str.length ≤ uintMax) (hstep : ∀ num root,
      stepEscaped ⟨{ string := true, escaped := true }, num, stack, str, none, root⟩ c =
        ⟨{ string := true }, num, stack, str ++ [b], none, root⟩) :
    Reads step (InString stack str) [92, c] (InString stack (str ++ [b])) := by
  intro s hs
  refine ⟨⟨{ string := true }, s.num, stack, str ++ [b], none, s.root⟩, ?_, ⟨rfl, rfl, rfl⟩, rfl⟩
  rw [foldlM_cons, step_inString hs (by decide) hlen, if_pos rfl, Option.bind_eq_bind,
    Option.bind_some, foldlM_cons, step_escaped hc hlen, hstep]
  rfl

theorem reads_escapeByte (hb : b ≠ 0) (hlen : str.length ≤ uintMax) :
    Reads step (InString stack str) (escapeByte b) (InString stack (str ++ [b])) := by
  unfold escapeByte
  split_ifs with hquote hslash hbs hff hnl hcr htab
  · subst hquote
    exact reads_escaped (by decide) hlen fun _ _ => rfl
  · subst hslash
    exact reads_escaped (by decide) hlen fun _ _ => rfl
  · subst hbs
    exact reads_escaped (by decide) hlen fun _ _ => rfl
  · subst hff
    exact reads_escaped (by decide) hlen fun _ _ => rfl
  · subst hnl
    exact reads_escaped (by decide) hlen fun _ _ => rfl
  · subst hcr
    exact reads_escaped (by decide) hlen fun _ _ => rfl
  · subst htab
    exact reads_escaped (by decide) hlen fun _ _ => rfl
  · refine Reads.cons (fun s hs => ?_) Reads.nil
    rw [step_inString hs hb hlen, if_neg hslash, if_neg hquote]
    exact ⟨_, rfl, ⟨rfl, rfl, rfl⟩, rfl⟩

theorem reads_escaped_string (string : CString) (hlen : string.bytes.length ≤ uintMax) :
    Reads step (InString stack []) (string.bytes.flatMap escapeByte)
      (InString stack string.bytes) := by
  apply Reads.of_blocks (I := InString stack)
  intro before b after hsplit
  refine reads_escapeByte ?_ ?_
  · rintro rfl
    exact string.no_nul (by simp [hsplit])
  · have := congrArg List.length hsplit
    simp only [length_append, length_cons] at this
    omega

theorem renders_string (string : CString) (hlen : string.bytes.length ≤ uintMax) :
    Renders (jwPutStringEscape string) (.string string.bytes) := by
  intro parents hroom input Q hends hafter
  have hopen : ∀ s, Seek parents s → ∃ t, step s 34 = some t ∧
      InString (.string :: parents) [] t := by
    intro s hs
    rw [step_seek_start hroom hs rfl (by decide)]
    exact ⟨_, rfl, ⟨rfl, congrArg _ hs.2.1, hs.2.2⟩, rfl⟩
  have hclose : ∀ s, InString (.string :: parents) string.bytes s → ∃ t, step s 34 = some t ∧
      After (.string string.bytes) parents t := by
    intro s hs
    rw [step_inString hs (by decide) hlen, if_neg (by decide), if_pos rfl, hs.eq]
    exact next_after _ rfl rfl hroom
  rw [jwPutStringEscape, cons_append, append_assoc, singleton_append]
  exact Reads.cons hopen ((reads_escaped_string string hlen).append (Reads.cons hclose hafter))

end Strings

/-! ## Numbers -/

section Numbers

variable {parents : List Open} {negative : Bool} {s : State} {x integer z : ℤ}
  {double : Option Decimal} {b : UInt8} {d k : ℕ} {value : Value} {input : Bytes} {Q : State → Prop}

theorem wrapInt64_of_small (hle : -2 ^ 63 ≤ x) (hlt : x < 2 ^ 63) : wrapInt64 x = x := by
  unfold wrapInt64
  rw [Int.bmod_eq_of_le] <;> norm_num <;> omega

/-- The digits of `k` were read. -/
def InNumber (parents : List Open) (negative : Bool) (k : ℕ) (s : State) : Prop :=
  Standing {} (.number k none :: parents) s ∧ s.num.negative = negative ∧ s.num.e = false ∧
    0 < s.num.numDigits ∧ (s.num.zero = true → k = 0)

theorem step_number (h : Standing {} (.number integer double :: parents) s) :
    step s b = match stepNumber s.num integer double b with
      | none => none
      | some (.more num integer double) =>
        some { s with num := num, stack := .number integer double :: parents }
      | some (.complete value) => (next s value parents).bind fun s => stepPlain s b := by
  rw [h.eq]
  rfl

theorem stepDigit_first (num : Num) (he : num.e = false) (hzero : num.zero = false)
    (hdigits : num.numDigits = 0) (hd : d < 10) : stepDigit num 0 none (digit d) =
      some (.more { num with numDigits := 1, zero := digit d = 48 } d none) := by
  have hwrap : wrapInt64 (d : ℤ) = d := by
    rw [wrapInt64_of_small] <;> omega
  simp [stepDigit, he, hzero, hdigits, digitValue_digit hd, hwrap]

theorem reads_first_digit (hroom : Room parents) (hd : d < 10) :
    Reads step (Seek parents) [digit d] (InNumber parents false d) := by
  refine Reads.cons (fun s hs => ?_) Reads.nil
  have hstart : startValue { s with flags := {} } (digit d) =
      some { s with
        flags := {}
        num := { numDigits := 1, zero := digit d = 48 }
        stack := .number d none :: s.stack } := by
    have hfirst := stepDigit_first {} rfl rfl rfl hd
    unfold startValue
    rw [if_neg, if_neg, if_neg, if_neg, if_neg, if_neg, if_neg, if_pos (isDigit_digit hd), hfirst]
    all_goals interval_cases d <;> decide
  have hspace : isWhitespace (digit d) = false := by interval_cases d <;> rfl
  have hbracket : digit d ≠ 93 := by interval_cases d <;> decide
  rw [step_seek_start hroom hs hspace hbracket, hstart]
  refine ⟨_, rfl, ⟨rfl, congrArg _ hs.2.1, hs.2.2⟩, rfl, rfl, Nat.one_pos, fun hzero => ?_⟩
  exact (digit_eq_zero_iff hd).1 (by simpa using hzero)

/-- The minus sign was read. -/
def AfterMinus (parents : List Open) (s : State) : Prop :=
  Standing {} (.number 0 none :: parents) s ∧ s.num = { negative := true }

theorem reads_minus (hroom : Room parents) :
    Reads step (Seek parents) [45] (AfterMinus parents) := by
  refine Reads.cons (fun s hs => ?_) Reads.nil
  rw [step_seek_start hroom hs rfl (by decide)]
  exact ⟨_, rfl, ⟨rfl, congrArg _ hs.2.1, hs.2.2⟩, rfl⟩

theorem reads_digit_after_minus (hd : d < 10) :
    Reads step (AfterMinus parents) [digit d] (InNumber parents true d) := by
  refine Reads.cons (fun s hs => ?_) Reads.nil
  have hfirst := stepDigit_first { negative := true } rfl rfl rfl hd
  rw [step_number hs.1, hs.2, stepNumber, if_pos (isDigit_digit hd), hfirst]
  refine ⟨_, rfl, ⟨hs.1.1, rfl, hs.1.2.2⟩, rfl, rfl, Nat.one_pos, fun hzero => ?_⟩
  exact (digit_eq_zero_iff hd).1 (by simpa using hzero)

theorem reads_digit (hk : 0 < k) (hd : d < 10) (hlt : 10 * k + d < 2 ^ 63) :
    Reads step (InNumber parents negative k) [digit d]
      (InNumber parents negative (10 * k + d)) := by
  refine Reads.cons (fun s hs => ?_) Reads.nil
  obtain ⟨hstanding, hneg, he, hdigits, hzero⟩ := hs
  have hzero' : s.num.zero = false := by
    cases hz : s.num.zero with
    | false => rfl
    | true => exact absurd (hzero hz) (by omega)
  have hwrap : wrapInt64 ((k : ℤ) * 10 + (d : ℤ)) = (10 * k + d : ℕ) := by
    rw [wrapInt64_of_small] <;> push_cast <;> omega
  have hstep : stepDigit s.num k none (digit d) =
      some (.more { s.num with numDigits := s.num.numDigits + 1, zero := false }
        (10 * k + d : ℕ) none) := by
    simp [stepDigit, he, hzero', digitValue_digit hd, hwrap]
    omega
  rw [step_number hstanding, stepNumber, if_pos (isDigit_digit hd), hstep]
  exact ⟨_, rfl, ⟨hstanding.1, rfl, hstanding.2.2⟩, hneg, he, Nat.succ_pos _, fun h => nomatch h⟩

theorem step_after (h : After value parents s) : step s b = stepPlain s b := by
  match parents, h with
  | [], h =>
    rw [h.1.eq]
    rfl
  | .object .. :: _, h =>
    rw [Standing.eq h]
    rfl
  | .array _ :: _, h =>
    rw [Standing.eq h]
    rfl

theorem reads_number_end (hroom : Room parents) (hends : Ends input) (hk : k < 2 ^ 63)
    (hafter : Reads step (After (.integer (if negative then -k else k)) parents) input Q) :
    Reads step (InNumber parents negative k) input Q := by
  rintro s ⟨hstanding, hneg, he, -, -⟩
  obtain ⟨b, rest, rfl, hb⟩ := hends
  have hwrap : wrapInt64 (-(k : ℤ)) = -k := by
    rw [wrapInt64_of_small] <;> omega
  have hcomplete : stepNumber s.num k none b =
      some (.complete (.integer (if negative then -k else k))) := by
    have hbytes : isDigit b = false ∧ b ≠ 46 ∧ b ≠ 101 ∧ b ≠ 69 := by
      fin_cases hb <;> decide
    obtain ⟨hdigit, hdot, hlower, hupper⟩ := hbytes
    simp [stepNumber, hdigit, he, hdot, endMantissa, hlower, hupper, endNumber, hneg, hwrap]
  obtain ⟨t, ht, htafter⟩ :=
    next_after (.integer (if negative then -k else k)) hstanding.1 hstanding.2.2 hroom
  obtain ⟨s', hs', hQ⟩ := hafter t htafter
  refine ⟨s', ?_, hQ⟩
  rw [foldlM_cons, step_after htafter] at hs'
  rw [foldlM_cons, step_number hstanding, hcomplete]
  dsimp only
  rw [ht]
  exact hs'

theorem renders_integer (hle : -2 ^ 63 < z) (hlt : z < 2 ^ 63) :
    Renders (formatInt z) (.integer z) := by
  intro parents hroom input Q hends hafter
  unfold formatInt
  split_ifs with hneg
  · have hnumber : Reads step (AfterMinus parents) (decimal z.natAbs)
        (InNumber parents true z.natAbs) :=
      reads_decimal (fun d hd => reads_digit_after_minus hd)
        (fun k d hk hd hlt => reads_digit hk hd (by omega)) z.natAbs le_rfl
    refine (reads_minus hroom).append (hnumber.append (reads_number_end hroom hends (by omega) ?_))
    rw [if_pos rfl, Int.ofNat_natAbs_of_nonpos (by omega), neg_neg]
    exact hafter
  · have hnumber : Reads step (Seek parents) (decimal z.natAbs)
        (InNumber parents false z.natAbs) :=
      reads_decimal (fun d hd => reads_first_digit hroom hd)
        (fun k d hk hd hlt => reads_digit hk hd (by omega)) z.natAbs le_rfl
    refine hnumber.append (reads_number_end hroom hends (by omega) ?_)
    rw [if_neg (by decide), Int.natAbs_of_nonneg (not_lt.1 hneg)]
    exact hafter

end Numbers

/-! ## Arrays and objects -/

section Containers

variable {parents up : List Open} {s : State} {text input : Bytes} {value : Value}
  {Q : State → Prop}

theorem renders_space (h : Renders text value) : Renders (32 :: text) value := by
  intro parents hroom input Q hends hafter
  refine Reads.cons (fun s hs => ?_) (h parents hroom input Q hends hafter)
  rw [step_seek hroom hs]
  exact ⟨s, rfl, hs⟩

/-- Behind the values of an array. -/
def InArray (values : List Value) (up : List Open) : State → Prop :=
  Standing { needComma := true, seekValue := true } (.array values :: up)

theorem ends_of_flatMap {β : Type} (items : List β) (text : β → Bytes) (hends : Ends input) :
    Ends (items.flatMap (fun i => 44 :: text i) ++ input) := by
  cases items with
  | nil => exact hends
  | cons item items => exact ⟨44, _, rfl, by decide⟩

section Items

variable {ι γ : Type} {R B : List γ → State → Prop} {W : List γ → Value} {render : ι → Bytes}
  {pair : ι → γ} {b o : UInt8} {items : List ι} (hb : b ∈ [0, 44, 93, 125])
  (hcomma : ∀ values s, B values s → ∃ t, step s 44 = some t ∧ R values t)
  (hitem : ∀ item ∈ items, ∀ values input, values.length < uintMax → Ends input →
    Reads step (B (values ++ [pair item])) input Q →
      Reads step (R values) (render item ++ input) Q)
include hb hcomma hitem

/-- The items of a container behind the first: the state is `R` where one is expected, and `B`
behind one. -/
theorem reads_items (values : List γ) (hlen : values.length + items.length ≤ uintMax)
    (hafter : Reads step (B (values ++ items.map pair)) (b :: input) Q) :
    Reads step (B values) (items.flatMap (44 :: render ·) ++ b :: input) Q := by
  induction items generalizing values with
  | nil => simpa using hafter
  | cons item items ih =>
    rw [length_cons] at hlen
    have hrest := ih (fun i hi => hitem i (mem_cons_of_mem _ hi)) (values ++ [pair item])
      (by simp; omega) (by simpa using hafter)
    have hfirst := hitem item mem_cons_self values _ (by omega)
      (ends_of_flatMap items render ⟨b, input, rfl, hb⟩) hrest
    simpa using Reads.cons (hcomma values) hfirst

theorem reads_container (hopen : ∀ s, Seek parents s → ∃ t, step s o = some t ∧ R [] t)
    (hclose : ∀ values s, R values s ∨ B values s →
      ∃ t, step s b = some t ∧ After (W values) parents t) (hlen : items.length ≤ uintMax)
    (hafter : Reads step (After (W (items.map pair)) parents) input Q) :
    Reads step (Seek parents) (o :: (commaSeparated (items.map render) ++ [b]) ++ input) Q := by
  cases items with
  | nil => exact Reads.cons hopen (Reads.cons (fun s hs => hclose [] s (.inl hs)) hafter)
  | cons item items =>
    have hrest := reads_items hb hcomma (fun i hi => hitem i (mem_cons_of_mem _ hi)) [pair item]
      (by simpa [Nat.add_comm] using hlen) (Reads.cons (fun s hs => hclose _ s (.inr hs)) hafter)
    have hfirst := hitem item mem_cons_self [] _ (show 0 < uintMax by decide)
      (ends_of_flatMap items render ⟨b, input, rfl, hb⟩) hrest
    simpa [commaSeparated, flatMap_map] using Reads.cons hopen hfirst

end Items

theorem renders_array (items : List (Bytes × Value))
    (hitems : ∀ item ∈ items, Renders item.1 item.2) (hlen : items.length ≤ uintMax) :
    Renders (91 :: (commaSeparated (items.map Prod.fst) ++ [93]))
      (.array (items.map Prod.snd)) := by
  intro parents hroom input Q hends hafter
  refine reads_container (R := fun values => Seek (.array values :: parents))
    (B := (InArray · parents)) (W := Value.array) (by decide) ?_ ?_ ?_ ?_ hlen hafter
  · intro values s hs
    rw [Standing.eq hs]
    exact ⟨_, rfl, rfl, rfl, rfl⟩
  · intro item hi values input hlen hends hafter
    exact hitems item hi (.array values :: parents) hlen input Q hends hafter
  · intro s hs
    rw [step_seek_start hroom hs rfl (by decide)]
    exact ⟨_, rfl, rfl, congrArg _ hs.2.1, hs.2.2⟩
  · -- the bracket is read in the same way before the first value and behind the last one
    rintro values s (hs | hs)
    all_goals
      rw [Standing.eq hs]
      exact next_after _ rfl rfl hroom

/-- An entry of an object: its name, the text of its value, and the value. -/
structure Entry where
  key : CString
  text : Bytes
  value : Value

/-- The text of an entry. -/
def Entry.render (entry : Entry) : Bytes := jwPutStringEscape entry.key ++ 58 :: entry.text

/-- What it is parsed to. -/
def Entry.pair (entry : Entry) : Bytes × Value := (entry.key.bytes, entry.value)

/-- An entry that is parsed to its name and value. -/
structure Entry.Sound (entry : Entry) : Prop where
  short : entry.key.bytes.length ≤ uintMax
  renders : Renders entry.text entry.value

/-- One entry of an object. -/
theorem reads_entry {entry : Entry} (hentry : entry.Sound) (entries : List (Bytes × Value))
    (hlen : entries.length < uintMax) (hends : Ends input)
    (hafter : Reads step
      (Standing { needComma := true } (.object (entries ++ [entry.pair]) [] :: up))
      input Q) :
    Reads step (Standing {} (.object entries [] :: up)) (entry.render ++ input) Q := by
  have hopen : ∀ s, Standing {} (.object entries [] :: up) s → ∃ t, step s 34 = some t ∧
      InString (.object entries [] :: up) [] t := by
    intro s hs
    rw [hs.eq]
    exact ⟨_, rfl, ⟨rfl, rfl, rfl⟩, rfl⟩
  have hclose : ∀ s, InString (.object entries [] :: up) entry.key.bytes s →
      ∃ t, step s 34 = some t ∧
        Standing { seekValue := true, needColon := true } (.object entries entry.key.bytes :: up)
          t := by
    intro s hs
    rw [step_inString hs (by decide) hentry.short, if_neg (by decide), if_pos rfl, hs.eq]
    exact ⟨_, rfl, rfl, rfl, rfl⟩
  have hcolon : ∀ s, Standing { seekValue := true, needColon := true }
      (.object entries entry.key.bytes :: up) s →
      ∃ t, step s 58 = some t ∧ Seek (.object entries entry.key.bytes :: up) t := by
    intro s hs
    rw [hs.eq]
    exact ⟨_, rfl, rfl, rfl, rfl⟩
  have hvalue := hentry.renders (.object entries entry.key.bytes :: up) hlen input Q hends hafter
  have hname := Reads.cons hopen ((reads_escaped_string entry.key hentry.short).append
    (Reads.cons hclose (Reads.cons hcolon hvalue)))
  simpa [Entry.render, jwPutStringEscape] using hname

theorem renders_object (items : List Entry) (hitems : ∀ item ∈ items, item.Sound)
    (hlen : items.length ≤ uintMax) :
    Renders (123 :: (commaSeparated (items.map Entry.render) ++ [125]))
      (.object (items.map Entry.pair)) := by
  intro parents hroom input Q hends hafter
  refine reads_container (R := fun entries => Standing {} (.object entries [] :: parents))
    (B := fun entries => Standing { needComma := true } (.object entries [] :: parents))
    (W := Value.object) (by decide) ?_ ?_ ?_ ?_ hlen hafter
  · intro entries s hs
    rw [hs.eq]
    exact ⟨_, rfl, rfl, rfl, rfl⟩
  · intro item hi entries input hlen hends hafter
    exact reads_entry (hitems item hi) entries hlen hends hafter
  · intro s hs
    rw [step_seek_start hroom hs rfl (by decide)]
    exact ⟨_, rfl, rfl, congrArg _ hs.2.1, hs.2.2⟩
  · rintro entries s (hs | hs)
    all_goals
      rw [hs.eq]
      exact next_after _ rfl rfl hroom

end Containers

/-! ## The whole text -/

theorem jsonParse_of_renders {value : Value} (h : Renders text value) (hbom : skipBom text = text) :
    jsonParse text = some value := by
  have hend : Reads step (After value []) [0] fun s =>
      s.flags.ended = true ∧ s.root = some value := by
    refine Reads.cons (fun s hs => ?_) Reads.nil
    rw [hs.1.eq]
    exact ⟨_, rfl, rfl, hs.2⟩
  obtain ⟨s, hs, hended, hroot⟩ :=
    h [] trivial [0] _ ⟨0, [], rfl, by decide⟩ hend start ⟨rfl, rfl, rfl⟩
  rw [jsonParse, hbom, hs, Option.bind_some, if_pos hended, hroot]

end PgBalancer.Json
