import Mathlib

/-!
# Pattern lists of the configuration

Five parameters are lists of regular expressions: the read-only and the writing
functions, the tables whose results may or must not be cached, and the queries
that go to the primary.  Each list is kept twice.  The entries are kept as an
array of strings that is freed and rebuilt whenever the parameter is set; the
compiled expressions go to one of three arrays, two of them shared by two
parameters, which nothing ever clears.  Questions are answered from the compiled
arrays by `patternCompare`.

* `patternCompare_last_iff` — hence **a reload replaces a list exactly as far as
  what the earlier loads matched is still matched by the last one**.
* `pieces_split_iff` — **which lists of queries are split into their pieces**.

Compiling and matching regular expressions is a parameter (`Regex`).
-/

namespace PgBalancer.PatternLists

open List

/-- The characters of a value. -/
abbrev Text := List Char

/-- `regcomp` and `regexec` with the flags of the source. -/
structure Regex (ρ : Type) where
  /-- `none` for an invalid expression -/
  regcomp : Text → Option ρ
  regexec : ρ → Text → Bool

/-- The parameters whose entries are compiled. -/
inductive ListParam where
  | readOnlyFunctionList
  | writeFunctionList
  | cacheSafeMemqcacheTableList
  | cacheUnsafeMemqcacheTableList
  | primaryRoutingQueryPatternList
  deriving DecidableEq

/-- `WRITELIST` and `READONLYLIST`. -/
inductive PatternType where
  | writelist
  | readonlylist
  deriving DecidableEq

/-- The three arrays of compiled expressions. -/
inductive PatternArray where
  /-- `lists_patterns` -/
  | functions
  /-- `lists_memqcache_table_patterns` -/
  | tables
  /-- `lists_query_patterns` -/
  | queries
  deriving DecidableEq

namespace ListParam

/-- The type `add_regex_pattern` gives to the entries of a parameter, and its
callers ask for. -/
def patternType : ListParam → PatternType
  | writeFunctionList | primaryRoutingQueryPatternList | cacheUnsafeMemqcacheTableList =>
    .writelist
  | readOnlyFunctionList | cacheSafeMemqcacheTableList => .readonlylist

/-- The array the entries of a parameter go to. -/
def array : ListParam → PatternArray
  | readOnlyFunctionList | writeFunctionList => .functions
  | cacheSafeMemqcacheTableList | cacheUnsafeMemqcacheTableList => .tables
  | primaryRoutingQueryPatternList => .queries

theorem eq_of_array_of_type {p q : ListParam} (ha : p.array = q.array)
    (ht : p.patternType = q.patternType) : p = q := by
  cases p <;> cases q <;> simp_all [array, patternType]

end ListParam

/-! ## From the value of a parameter to its entries -/

/-- `isspace` -/
def isSpace (c : Char) : Bool := c ∈ [' ', '\t', '\n', '\x0b', '\x0c', '\r']

/-- Drop white space on both sides. -/
def trim (s : Text) : Text := ((s.dropWhile isSpace).reverse.dropWhile isSpace).reverse

/-- `get_list_from_string`: `strtok` skips empty tokens, but one that is all white
space stays as an empty entry. -/
def getListFromString (s : Text) (delim : Char) : List Text :=
  ((s.splitOn delim).filter (· ≠ [])).map trim

/-- `string_replace(s, "\\'", "'")` -/
def unescapeQuote : Text → Text
  | '\\' :: '\'' :: s => '\'' :: unescapeQuote s
  | c :: s => c :: unescapeQuote s
  | [] => []

/-- The scanning loop of `get_list_from_string_regex_delim`.  A backslash takes the
next character along; text that no delimiter ends is dropped. -/
def splitEscaped (delim : Char) : (token : Text) → Text → List Text
  | _, [] => []
  | _, ['\\'] => []
  | token, '\\' :: c :: s => splitEscaped delim (token ++ ['\\', c]) s
  | token, c :: s =>
    if c = delim then unescapeQuote token :: splitEscaped delim [] s
    else splitEscaped delim (token ++ [c]) s

/-- `get_list_from_string_regex_delim`: a final delimiter is added unless there is
one that is not escaped. -/
def getListFromStringRegexDelim (s : Text) (delim : Char) : List Text :=
  if s = [] then []
  else if s.getLast? ≠ some delim ∨ s.dropLast.getLast? = some '\\' then
    splitEscaped delim [] (s ++ [';'])
  else splitEscaped delim [] s

/-- The entries of a parameter for a value. -/
def ListParam.entries (p : ListParam) (value : Text) : List Text :=
  match p with
  | primaryRoutingQueryPatternList => getListFromStringRegexDelim value ';'
  | _ => getListFromString value ','

/-! ## The two copies of a list -/

/-- `RegPattern` -/
structure RegPattern (ρ : Type) where
  type : PatternType
  regexv : ρ

/-- The part of `pool_config` the lists live in. -/
structure PoolConfig (ρ : Type) where
  /-- the arrays of strings -/
  lists : ListParam → List Text
  /-- the arrays of compiled expressions -/
  patterns : PatternArray → List (RegPattern ρ)

variable {ρ : Type} (rx : Regex ρ)

/-- The expression compiled for an entry: anchored on both sides. -/
def anchored (s : Text) : Text :=
  let s' := if s.head? = some '^' then s else '^' :: s
  if s.getLast? = some '$' then s' else s' ++ ['$']

/-- `add_regex_pattern`: an entry that does not compile is skipped with a warning. -/
def addRegexPattern (c : PoolConfig ρ) (p : ListParam) (s : Text) : PoolConfig ρ :=
  match rx.regcomp (anchored s) with
  | none => c
  | some regexv =>
    { c with
      patterns := Function.update c.patterns p.array
        (c.patterns p.array ++ [⟨p.patternType, regexv⟩]) }

/-- `setConfigOptionVar` for a list parameter: the strings are replaced, the
compiled expressions are added to those that are there. -/
def setConfigOptionVar (c : PoolConfig ρ) (p : ListParam) (value : Text) : PoolConfig ρ :=
  (p.entries value).foldl (fun c s => addRegexPattern rx c p s)
    { c with lists := Function.update c.lists p (p.entries value) }

/-- A configuration file that sets every list, in the order in which they stand
in it. -/
structure ConfigFile where
  value : ListParam → Text
  order : List ListParam
  complete : ∀ p, p ∈ order

/-- `pool_get_config`: the values of the file, in its order. -/
def poolGetConfig (c : PoolConfig ρ) (f : ConfigFile) : PoolConfig ρ :=
  f.order.foldl (fun c p => setConfigOptionVar rx c p (f.value p)) c

/-- The state before the first load: the boot values of all five lists are empty. -/
def bootConfig : PoolConfig ρ := ⟨fun _ => [], fun _ => []⟩

/-- `strip_quote` -/
def stripQuote (s : Text) : Text := s.filter (· ≠ '"')

/-- `pattern_compare`: is there a pattern of this type that matches? -/
def patternCompare (c : PoolConfig ρ) (str : Text) (type : PatternType) (p : ListParam) : Int :=
  if (c.patterns p.array).any fun r => r.type = type && rx.regexec r.regexv (stripQuote str) then 1
  else 0

/-! ## What the arrays hold after a number of loads -/

/-- An entry matches a string. -/
def Matches (s str : Text) : Prop :=
  ∃ regexv, rx.regcomp (anchored s) = some regexv ∧ rx.regexec regexv (stripQuote str) = true

instance (s str : Text) : Decidable (Matches rx s str) :=
  match h : rx.regcomp (anchored s) with
  | none => isFalse (by rintro ⟨regexv, hrx, -⟩; rw [h] at hrx; cases hrx)
  | some regexv =>
    decidable_of_iff (rx.regexec regexv (stripQuote str) = true) (by simp [Matches, h])

variable {rx} {c : PoolConfig ρ} {p q : ListParam} {r : RegPattern ρ} {str : Text}

/-- `r` is what `add_regex_pattern` makes of one of the entries `l` of `q`. -/
def CompiledFrom (rx : Regex ρ) (q : ListParam) (l : List Text) (r : RegPattern ρ) : Prop :=
  ∃ s ∈ l, rx.regcomp (anchored s) = some r.regexv ∧ r.type = q.patternType

/-- The patterns after all the entries of a list. -/
theorem mem_foldl_addRegexPattern (l : List Text) :
    ∀ c : PoolConfig ρ, r ∈ (l.foldl (fun c s => addRegexPattern rx c q s) c).patterns p.array ↔
      r ∈ c.patterns p.array ∨ (q.array = p.array ∧ CompiledFrom rx q l r) := by
  induction l with
  | nil => intro c; simp [CompiledFrom]
  | cons s l ih =>
    intro c
    rw [foldl_cons, ih]
    -- what the first entry adds
    have hadd : r ∈ (addRegexPattern rx c q s).patterns p.array ↔ r ∈ c.patterns p.array ∨
        (q.array = p.array ∧ rx.regcomp (anchored s) = some r.regexv ∧ r.type = q.patternType) := by
      unfold addRegexPattern
      cases hrx : rx.regcomp (anchored s) with
      | none => simp
      | some regexv =>
        by_cases ha : q.array = p.array
        · simp only [← ha, Function.update_self, mem_append, mem_singleton, true_and,
            Option.some.injEq]
          refine or_congr_right ?_
          constructor
          · rintro rfl
            exact ⟨rfl, rfl⟩
          · rintro ⟨rfl, ht⟩
            rw [← ht]
        · simp [Function.update_of_ne (Ne.symm ha), ha]
    rw [hadd, or_assoc, ← and_or_left]
    refine or_congr_right (and_congr_right fun _ => ?_)
    simp only [CompiledFrom, mem_cons, exists_eq_or_imp]

theorem lists_foldl_addRegexPattern (l : List Text) :
    (l.foldl (fun c s => addRegexPattern rx c q s) c).lists = c.lists := by
  induction l generalizing c with
  | nil => rfl
  | cons s l ih =>
    rw [foldl_cons, ih, addRegexPattern]
    split <;> rfl

theorem mem_patterns_setConfigOptionVar (value : Text) :
    r ∈ (setConfigOptionVar rx c q value).patterns p.array ↔
      r ∈ c.patterns p.array ∨ (q.array = p.array ∧ CompiledFrom rx q (q.entries value) r) :=
  mem_foldl_addRegexPattern _ _

theorem lists_setConfigOptionVar (value : Text) :
    (setConfigOptionVar rx c q value).lists = Function.update c.lists q (q.entries value) :=
  lists_foldl_addRegexPattern _

theorem mem_patterns_foldl (value : ListParam → Text) (order : List ListParam) : ∀ c : PoolConfig ρ,
      r ∈ (order.foldl (fun c q => setConfigOptionVar rx c q (value q)) c).patterns p.array ↔
        r ∈ c.patterns p.array ∨
          ∃ q ∈ order, q.array = p.array ∧ CompiledFrom rx q (q.entries (value q)) r := by
  induction order with
  | nil => intro c; simp
  | cons q order ih =>
    intro c
    rw [foldl_cons, ih, mem_patterns_setConfigOptionVar, or_assoc]
    simp only [mem_cons, exists_eq_or_imp]

/-- **A load adds the compiled entries of every parameter.** -/
theorem mem_patterns_poolGetConfig (f : ConfigFile) :
    r ∈ (poolGetConfig rx c f).patterns p.array ∧ r.type = p.patternType ↔
      (r ∈ c.patterns p.array ∧ r.type = p.patternType) ∨
        CompiledFrom rx p (p.entries (f.value p)) r := by
  rw [poolGetConfig, mem_patterns_foldl, or_and_right]
  refine or_congr_right ?_
  constructor
  · rintro ⟨⟨q, -, ha, hq⟩, ht⟩
    obtain ⟨s, hs, hrx, htq⟩ := hq
    obtain rfl := ListParam.eq_of_array_of_type ha (htq.symm.trans ht)
    exact ⟨s, hs, hrx, ht⟩
  · rintro ⟨s, hs, hrx, ht⟩
    exact ⟨⟨p, f.complete p, rfl, s, hs, hrx, ht⟩, ht⟩

/-- **The strings are replaced**: after a load they are the entries it gave. -/
theorem lists_poolGetConfig (f : ConfigFile) :
    (poolGetConfig rx c f).lists p = p.entries (f.value p) := by
  have hfold : ∀ (order : List ListParam) (c : PoolConfig ρ),
      p ∈ order ∨ c.lists p = p.entries (f.value p) →
        (order.foldl (fun c q => setConfigOptionVar rx c q (f.value q)) c).lists p =
          p.entries (f.value p) := by
    intro order
    induction order with
    | nil => exact fun c h => h.resolve_left not_mem_nil
    | cons q order ih =>
      intro c h
      refine ih _ ?_
      rw [lists_setConfigOptionVar]
      by_cases hpq : p = q
      · subst hpq
        exact .inr (Function.update_self ..)
      · rw [Function.update_of_ne hpq]
        exact h.imp_left fun hm => (mem_cons.1 hm).resolve_left hpq
  exact hfold f.order c (.inl (f.complete p))

/-! ## The answer after the last load -/

/-- Startup followed by any number of reloads. -/
def afterLoads (rx : Regex ρ) (loads : List ConfigFile) : PoolConfig ρ :=
  loads.foldl (poolGetConfig rx) bootConfig

theorem mem_patterns_afterLoads (loads : List ConfigFile) :
    r ∈ (afterLoads rx loads).patterns p.array ∧ r.type = p.patternType ↔
      ∃ f ∈ loads, CompiledFrom rx p (p.entries (f.value p)) r := by
  induction loads using List.reverseRecOn with
  | nil => simp [afterLoads, bootConfig]
  | append_singleton loads f ih =>
    rw [afterLoads, foldl_append, foldl_cons, foldl_nil, ← afterLoads,
      mem_patterns_poolGetConfig, ih]
    simp only [mem_append, mem_singleton, or_and_right, exists_or, exists_eq_left]

/-- **The answer counts every load so far.** -/
theorem patternCompare_eq_one_iff (rx : Regex ρ) (loads : List ConfigFile) (p : ListParam)
    (str : Text) : patternCompare rx (afterLoads rx loads) str p.patternType p = 1 ↔
      ∃ f ∈ loads, ∃ s ∈ p.entries (f.value p), Matches rx s str := by
  have hany : patternCompare rx (afterLoads rx loads) str p.patternType p = 1 ↔
      ∃ r, (r ∈ (afterLoads rx loads).patterns p.array ∧ r.type = p.patternType) ∧
        rx.regexec r.regexv (stripQuote str) = true := by
    unfold patternCompare
    split
    · next h =>
      simp only [true_iff]
      obtain ⟨r, hr, hm⟩ := any_eq_true.1 h
      simp only [Bool.and_eq_true, decide_eq_true_eq] at hm
      exact ⟨r, ⟨hr, hm.1⟩, hm.2⟩
    · next h =>
      simp only [zero_ne_one, false_iff]
      rintro ⟨r, ⟨hr, ht⟩, hm⟩
      exact h (any_eq_true.2 ⟨r, hr, by simp [ht, hm]⟩)
  rw [hany]
  simp only [mem_patterns_afterLoads]
  constructor
  · rintro ⟨r, ⟨f, hf, s, hs, hrx, -⟩, hm⟩
    exact ⟨f, hf, s, hs, r.regexv, hrx, hm⟩
  · rintro ⟨f, hf, s, hs, regexv, hrx, hm⟩
    exact ⟨⟨p.patternType, regexv⟩, ⟨f, hf, s, hs, hrx, rfl⟩, hm⟩

/-- **When a reload has replaced a list.**  After the last load the answer for a
string is that of the last list exactly when every entry of an earlier load that
matches the string is covered by an entry of the last one. -/
theorem patternCompare_last_iff (rx : Regex ρ) (loads : List ConfigFile) (last : ConfigFile)
    (p : ListParam) (str : Text) :
    (patternCompare rx (afterLoads rx (loads ++ [last])) str p.patternType p =
        if ∃ s ∈ (afterLoads rx (loads ++ [last])).lists p, Matches rx s str then 1 else 0) ↔
      ∀ f ∈ loads, ∀ s ∈ p.entries (f.value p), Matches rx s str →
        ∃ s' ∈ p.entries (last.value p), Matches rx s' str := by
  have hlists : (afterLoads rx (loads ++ [last])).lists p = p.entries (last.value p) := by
    rw [afterLoads, foldl_append, foldl_cons, foldl_nil, lists_poolGetConfig]
  have hone := patternCompare_eq_one_iff rx (loads ++ [last]) p str
  simp only [mem_append, mem_singleton, or_and_right, exists_or, exists_eq_left] at hone
  have hbool : patternCompare rx (afterLoads rx (loads ++ [last])) str p.patternType p = 1 ∨
      patternCompare rx (afterLoads rx (loads ++ [last])) str p.patternType p = 0 := by
    unfold patternCompare
    split <;> simp
  rw [hlists]
  split
  · next hlast => simp [hone, hlast]
  · next hlast =>
    have hzero : patternCompare rx (afterLoads rx (loads ++ [last])) str p.patternType p = 0 ↔
        ¬ ∃ f ∈ loads, ∃ s ∈ p.entries (f.value p), Matches rx s str := by
      rw [← not_iff_not, not_not]
      refine Iff.trans ?_ (hone.trans (or_iff_left hlast))
      omega
    rw [hzero]
    constructor
    · intro hnone f hf s hs hm
      exact absurd ⟨f, hf, s, hs, hm⟩ hnone
    · rintro hall ⟨f, hf, s, hs, hm⟩
      exact hlast (hall f hf s hs hm)

/-- Expressions without special characters, which match literally. -/
def literal : Regex Text where
  regcomp s := some s
  regexec r str := r == '^' :: str ++ ['$']

/-- A file that sets `read_only_function_list` and leaves the other lists empty. -/
def readOnlyFile (value : Text) : ConfigFile where
  value p := if p = .readOnlyFunctionList then value else []
  order := [.readOnlyFunctionList, .writeFunctionList, .cacheSafeMemqcacheTableList,
    .cacheUnsafeMemqcacheTableList, .primaryRoutingQueryPatternList]
  complete p := by cases p <;> decide

/-- Start with `f,g`, reload with `g`: the list of strings is `g` alone, and `f` is
still found in it. -/
theorem removed_function_still_matches :
    (afterLoads literal [readOnlyFile ['f', ',', 'g'], readOnlyFile ['g']]).lists
        .readOnlyFunctionList = [['g']] ∧ patternCompare literal
        (afterLoads literal [readOnlyFile ['f', ',', 'g'], readOnlyFile ['g']]) ['f']
        .readonlylist .readOnlyFunctionList = 1 := by
  decide +kernel

/-! ## The pieces of a list of queries -/

/-- The positions at which `get_list_from_string_regex_delim` looks to see how its input ends. -/
def tailReads (s : Text) (delim : Char) : List Int :=
  (s.length - 1 : Int) :: if s.getLast? = some delim then [(s.length - 2 : Int)] else []

/-- What has been read of a list: whether the next character is escaped, the pieces that a
delimiter has ended, and the one that is open. -/
structure Scan where
  escaped : Bool := false
  ended : List Text := []
  token : Text := []

/-- One character: a delimiter that is not escaped ends the token. -/
def scan (delim : Char) (r : Scan) (c : Char) : Scan :=
  if !r.escaped && c == delim then { ended := r.ended ++ [r.token] }
  else { r with escaped := !r.escaped && c == '\\', token := r.token ++ [c] }

/-- The scan of a whole text. -/
def scanned (s : Text) : Scan := s.foldl (scan ';') {}

/-- The text without the backslashes that stand right before a quote. -/
def unquoted (s : Text) : Text :=
  (s.tails.filter fun t => ¬ ['\\', '\''] <+: t).filterMap head?

/-- The pieces between the delimiters that are not escaped; one at the end adds none. -/
def pieces (s : Text) : List Text :=
  let r := scanned s
  (if r.token = [] then r.ended else r.ended ++ [r.token]).map unquoted

/-- **The replacement leaves out the backslashes before quotes and nothing else.** -/
theorem unescapeQuote_eq_unquoted : unescapeQuote = unquoted := by
  funext s
  fun_induction unescapeQuote s with
  | case1 s ih => simp [unquoted, ih]
  | case2 c s hquote ih =>
    have hkeep : ¬ ['\\', '\''] <+: c :: s := by
      rintro ⟨t, ht⟩
      obtain ⟨rfl, rfl⟩ := cons.inj ht
      exact hquote t rfl rfl
    simp [unquoted, ih, hkeep]
  | case3 => rfl

theorem splitEscaped_eq (token s : Text) (ended : List Text) :
    ended.map unescapeQuote ++ splitEscaped ';' token s =
      (s.foldl (scan ';') ⟨false, ended, token⟩).ended.map unescapeQuote := by
  fun_induction splitEscaped ';' token s generalizing ended with
  | case1 => simp
  | case2 => simp [scan]
  | case3 token c s ih => simp [scan, ih]
  | case4 token s _ _ ih => simpa [scan] using ih (ended ++ [token])
  | case5 token c s hnil hcons hc ih =>
    have hb : (c == '\\') = false := by
      cases s <;> simp_all
    simp [scan, hc, hb, ih]

theorem scanned_concat (s : Text) (c : Char) : scanned (s ++ [c]) = scan ';' (scanned s) c := by
  simp [scanned]

theorem getLast_of_escaped {s : Text} (h : (scanned s).escaped = true) :
    s.getLast? = some '\\' := by
  cases s using List.reverseRecOn with
  | nil => simp [scanned] at h
  | append_singleton s c =>
    rw [scanned_concat, scan] at h
    split at h <;> simp_all

/-- **A list is split into its pieces, reading only inside of it, exactly if** a backslash at its
end is escaped, and a delimiter at its end is not the whole list and is escaped by every
backslash before it. -/
theorem pieces_split_iff (s : Text) (c : Char) :
    (getListFromStringRegexDelim (s ++ [c]) ';' = pieces (s ++ [c]) ∧
        ∀ i ∈ tailReads (s ++ [c]) ';', 0 ≤ i ∧ i < (s ++ [c]).length) ↔
      (c = '\\' → (scanned s).escaped = true) ∧
        (c = ';' → s ≠ [] ∧ (s.getLast? = some '\\' → (scanned s).escaped = true)) := by
  have hsplit : ∀ t, splitEscaped ';' [] t = (scanned t).ended.map unquoted :=
    fun t => unescapeQuote_eq_unquoted ▸ splitEscaped_eq [] t []
  have hlast := @getLast_of_escaped s
  have hreads : (∀ i ∈ tailReads (s ++ [c]) ';', 0 ≤ i ∧ i < (s ++ [c]).length) ↔
      (c = ';' → s ≠ []) := by
    by_cases hc : c = ';'
    · simp [tailReads, hc, ← length_pos_iff]
      omega
    · simp [tailReads, hc]
  rw [hreads, getListFromStringRegexDelim, if_neg (by simp), pieces]
  simp only [hsplit, scanned_concat, getLast?_concat, dropLast_concat]
  generalize scanned s = r at *
  obtain ⟨escaped, ended, token⟩ := r
  by_cases hc : c = ';'
  · subst hc
    cases escaped
    · by_cases hb : s.getLast? = some '\\' <;> simp [scan, hb]
    · simp [scan, hlast]
  · by_cases hb : c = '\\' <;> cases escaped <;> simp [scan, hc, hb]

/-- The list `a;b\`: the second piece is lost. -/
theorem last_piece_dropped :
    getListFromStringRegexDelim ['a', ';', 'b', '\\'] ';' = [['a']] ∧
      pieces ['a', ';', 'b', '\\'] = [['a'], ['b', '\\']] := by
  decide

end PgBalancer.PatternLists
