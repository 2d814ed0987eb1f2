import PgBalancer.Routing.WhereToSend

/-!
# Is a query likely a `SELECT`?

Before the query is parsed, `pool_is_likely_select` goes through its text: past white space
and comments to a place where it reads `SELECT` or `WITH`.  The text ends with a NUL, and a
pointer into it is modelled as the rest of the text with the NUL; the empty list is a pointer
behind the NUL, where nothing may be read.

* `likely_select_iff` — **the function stays inside the text, and answers `true` for every
  `SELECT` behind comments, exactly on the harmless texts**.
-/

namespace PgBalancer.LikelySelect

open List

open PatternLists (Text isSpace)

/-! ## The function -/

/-- The terminating NUL. -/
def nul : Char := '\x00'

/-- A read behind the terminating NUL. -/
inductive Overrun where
  | overrun
  deriving DecidableEq

/-- `while (*query && isspace(*query)) query++;` -/
def skipSpaces : Text → Text
  | [] => []
  | c :: p => if c ≠ nul ∧ isSpace c then skipSpaces p else c :: p

/-- `while (*query && strncmp(query, s, 2)) query++;` -/
def skipUntil (s : Text) : Text → Text
  | [] => []
  | c :: p => if c ≠ nul ∧ (c :: p).take 2 ≠ s then skipUntil s p else c :: p

/-- `while (*query && !strncmp(query, s, 2)) query++;` -/
def skipWhile (s : Text) : Text → Text
  | [] => []
  | c :: p => if c ≠ nul ∧ (c :: p).take 2 = s then skipWhile s p else c :: p

/-- The string `"\n"`; its second character, which `strncmp` compares as well, is the NUL. -/
def returnMark : Text := ['\n', nul]

/-- The beginning of a C comment. -/
def openMark : Text := ['/', '*']

/-- Its end. -/
def closeMark : Text := ['*', '/']

/-- The beginning of a line comment. -/
def lineMark : Text := ['-', '-']

/-- `!strncasecmp(query, "SELECT", 6) || !strncasecmp(query, "WITH", 4)` -/
def isKeyword (p : Text) : Bool :=
  (p.take 6).map Char.toLower = ['s', 'e', 'l', 'e', 'c', 't'] ||
    (p.take 4).map Char.toLower = ['w', 'i', 't', 'h']

theorem length_skipSpaces_le (p : Text) : (skipSpaces p).length ≤ p.length := by
  induction p with
  | nil => exact le_rfl
  | cons c p ih =>
    unfold skipSpaces
    split
    · exact ih.trans (Nat.le_succ _)
    · exact le_rfl

theorem length_skipUntil_le (s p : Text) : (skipUntil s p).length ≤ p.length := by
  induction p with
  | nil => exact le_rfl
  | cons c p ih =>
    unfold skipUntil
    split
    · exact ih.trans (Nat.le_succ _)
    · exact le_rfl

theorem length_skipWhile_le (s p : Text) : (skipWhile s p).length ≤ p.length := by
  induction p with
  | nil => exact le_rfl
  | cons c p ih =>
    unfold skipWhile
    split
    · exact ih.trans (Nat.le_succ _)
    · exact le_rfl

/-- The main loop.  Each turn begins with reading `*query`. -/
def scanLoop : Text → Except Overrun Bool
  | [] => .error .overrun
  | c :: p =>
    if c = nul then .ok false
    -- white space, and around again
    else if isSpace c then scanLoop (skipSpaces p)
    -- return marks: nothing is left for this loop, as a newline is white space
    else if (c :: p).take 2 = returnMark then scanLoop ((skipWhile returnMark p).drop 2)
    else if (c :: p).take 2 = openMark then scanLoop ((skipUntil closeMark (c :: p)).drop 2)
    else if (c :: p).take 2 = lineMark then scanLoop ((skipUntil returnMark (c :: p)).drop 2)
    else if isKeyword (c :: p) then .ok true
    else scanLoop p
termination_by query => query.length
decreasing_by
  · have := length_skipSpaces_le p
    simp only [length_cons]
    omega
  · have := length_skipWhile_le returnMark p
    simp only [length_cons, length_drop]
    omega
  · have := length_skipUntil_le closeMark (c :: p)
    simp only [length_cons, length_drop] at this ⊢
    omega
  · have := length_skipUntil_le returnMark (c :: p)
    simp only [length_cons, length_drop] at this ⊢
    omega
  · exact Nat.lt_succ_self _

/-- A string in memory. -/
def cString (s : Text) : Text := s ++ [nul]

/-- `pool_is_likely_select`; `none` is a null pointer. -/
def poolIsLikelySelect (ignoreLeadingWhiteSpace : Bool) (query : Option Text) :
    Except Overrun Bool :=
  match query with
  | none => .ok false
  | some s =>
    let p := if ignoreLeadingWhiteSpace then skipSpaces (cString s) else cString s
    match p.head? with
    | none => .error .overrun
    | some c => if c = nul then .ok false else scanLoop p

/-! ## Texts -/

/-- What follows the first `*/`. -/
def afterClose : Text → Option Text
  | [] => none
  | c :: p => if (c :: p).take 2 = closeMark then some (p.drop 1) else afterClose p

/-- What follows the first newline. -/
def afterNewline : Text → Option Text
  | [] => none
  | c :: p => if c = '\n' then some p else afterNewline p

/-- `SELECT` or `WITH` behind white space, `--` comments and closed C comments. -/
inductive Leading : Text → Prop
  | keyword {p : Text} : isKeyword p = true → Leading p
  | space {c : Char} {p : Text} : isSpace c = true → Leading p → Leading (c :: p)
  | line {p rest : Text} : afterNewline p = some rest → Leading rest → Leading ('-' :: '-' :: p)
  | block {p rest : Text} : afterClose p = some rest → Leading rest → Leading ('/' :: '*' :: p)

/-- No `--`, and no C comment without an end, in front of the first `SELECT` or `WITH`
outside of C comments.  The end of a comment may share its `*` with the beginning. -/
inductive Harmless : Text → Prop
  | nil : Harmless []
  | keyword {p : Text} : isKeyword p = true → Harmless p
  | block {p rest : Text} : afterClose ('*' :: p) = some rest → Harmless rest →
      Harmless ('/' :: '*' :: p)
  | skip {c : Char} {p : Text} : (c :: p).take 2 ≠ openMark → (c :: p).take 2 ≠ lineMark →
      Harmless p → Harmless (c :: p)

/-! ## Where the loops stop -/

section Loops

variable {c : Char} {p s : Text}

theorem skipUntil_cons (hc : c ≠ nul) (hne : (c :: p).take 2 ≠ s) :
    skipUntil s (c :: p) = skipUntil s p := by
  rw [skipUntil, if_pos ⟨hc, hne⟩]

/-- A comment is skipped together with its end. -/
theorem skipUntil_close (t : Text) (h : nul ∉ t) :
    (skipUntil closeMark (cString t)).drop 2 = ((afterClose t).map cString).getD [] := by
  induction t with
  | nil => rfl
  | cons c t ih =>
    have hc : c ≠ nul := fun hc => h (hc ▸ mem_cons_self)
    have ih := ih fun hmem => h (mem_cons_of_mem _ hmem)
    unfold cString at ih ⊢
    rw [cons_append]
    cases t with
    | nil =>
      have hne : (c :: ([] ++ [nul])).take 2 ≠ closeMark := by simp [closeMark, nul]
      have hnone : afterClose [c] = none := by simp [afterClose, closeMark]
      rw [skipUntil_cons hc hne, ih, hnone]
      rfl
    | cons d t =>
      have htake : (c :: (d :: t ++ [nul])).take 2 = (c :: d :: t).take 2 := rfl
      rw [afterClose]
      by_cases hmark : (c :: d :: t).take 2 = closeMark
      · rw [skipUntil, if_neg (by rw [htake]; exact fun hne => hne.2 hmark), if_pos hmark]
        rfl
      · rw [skipUntil_cons hc (by rw [htake]; exact hmark), if_neg hmark]
        exact ih

/-- **A `--` comment is left behind the NUL**, at whatever line it ends. -/
theorem skipUntil_return (t : Text) (h : nul ∉ t) :
    (skipUntil returnMark (cString t)).drop 2 = [] := by
  induction t with
  | nil => rfl
  | cons c t ih =>
    have hc : c ≠ nul := fun hc => h (hc ▸ mem_cons_self)
    have ht : nul ∉ t := fun hmem => h (mem_cons_of_mem _ hmem)
    rw [cString, cons_append]
    cases t with
    | nil =>
      rw [skipUntil]
      split
      · exact ih ht
      · rfl
    | cons d t =>
      have hd : d ≠ nul := fun hd => ht (hd ▸ mem_cons_self)
      have hne : (c :: (d :: t ++ [nul])).take 2 ≠ returnMark := by simp [returnMark, hd]
      rw [skipUntil_cons hc hne]
      exact ih ht

theorem ne_nul_of_isSpace (h : isSpace c = true) : c ≠ nul := by
  rintro rfl
  exact absurd h (by decide)

theorem scanLoop_skipSpaces : scanLoop (skipSpaces p) = scanLoop p := by
  cases p with
  | nil => rfl
  | cons c p =>
    by_cases hc : isSpace c = true
    · have hne := ne_nul_of_isSpace hc
      rw [skipSpaces, if_pos ⟨hne, hc⟩, scanLoop, if_neg hne, if_pos hc]
    · rw [skipSpaces, if_neg fun h => hc h.2]

theorem scanLoop_space (h : isSpace c = true) : scanLoop (c :: p) = scanLoop p := by
  rw [scanLoop, if_neg (ne_nul_of_isSpace h), if_pos h, scanLoop_skipSpaces]

end Loops

/-! ## One turn -/

section Turn

theorem take_cString (t : Text) (k : ℕ) (s : Text) (hs : s.length = k) (hnul : nul ∉ s) :
    (cString t).take k = s ↔ t.take k = s := by
  unfold cString
  rw [take_append]
  constructor
  · intro h
    by_cases hlen : k ≤ t.length
    · simpa [Nat.sub_eq_zero_of_le hlen] using h
    · exfalso
      refine hnul ?_
      rw [← h]
      refine mem_append_right _ ?_
      obtain ⟨j, hj⟩ : ∃ j, k - t.length = j + 1 := ⟨k - t.length - 1, by omega⟩
      simp [hj]
  · intro h
    have hlen : k ≤ t.length := by
      have := congrArg List.length h
      rw [length_take, hs] at this
      omega
    simpa [Nat.sub_eq_zero_of_le hlen] using h

theorem take_map_cString (t : Text) (k : ℕ) (s : Text) (hs : s.length = k) (hnul : nul ∉ s) :
    ((cString t).take k).map Char.toLower = s ↔ (t.take k).map Char.toLower = s := by
  have hlower : (cString t).map Char.toLower = cString (t.map Char.toLower) := by
    simp only [cString, map_append, map_cons, map_nil]
    rfl
  rw [map_take, map_take, hlower]
  exact take_cString _ k s hs hnul

theorem isKeyword_cString (t : Text) : isKeyword (cString t) = isKeyword t := by
  have hselect := take_map_cString t 6 ['s', 'e', 'l', 'e', 'c', 't'] rfl (by decide)
  have hwith := take_map_cString t 4 ['w', 'i', 't', 'h'] rfl (by decide)
  simp only [isKeyword, hselect, hwith]

variable {c a b : Char} {t rest : Text}

theorem scanLoop_nil : scanLoop [] = .error .overrun := by rw [scanLoop]

theorem scanLoop_end : scanLoop (cString []) = .ok false := by
  rw [cString, nil_append, scanLoop, if_pos rfl]

/-- One step of the scan. -/
theorem scanLoop_cString (hnul : nul ∉ c :: t) (hspace : isSpace c = false) :
    scanLoop (cString (c :: t)) =
      if (c :: t).take 2 = openMark then scanLoop (((afterClose (c :: t)).map cString).getD [])
      else if (c :: t).take 2 = lineMark then .error .overrun
      else if isKeyword (c :: t) then .ok true else scanLoop (cString t) := by
  have hc : c ≠ nul := fun hc => hnul (hc ▸ mem_cons_self)
  have hopen : (c :: cString t).take 2 = openMark ↔ (c :: t).take 2 = openMark :=
    take_cString (c :: t) 2 openMark rfl (by decide)
  have hline : (c :: cString t).take 2 = lineMark ↔ (c :: t).take 2 = lineMark :=
    take_cString (c :: t) 2 lineMark rfl (by decide)
  have hclose : (skipUntil closeMark (c :: cString t)).drop 2 = _ := skipUntil_close (c :: t) hnul
  have hreturn : (skipUntil returnMark (c :: cString t)).drop 2 = [] :=
    skipUntil_return (c :: t) hnul
  have hkey : isKeyword (c :: cString t) = isKeyword (c :: t) := isKeyword_cString (c :: t)
  have hmark : (c :: cString t).take 2 ≠ returnMark := by
    intro hmark
    have hhead : c = '\n' := by simpa [returnMark] using congrArg List.head? hmark
    rw [hhead] at hspace
    exact absurd hspace (by decide)
  change scanLoop (c :: cString t) = _
  rw [scanLoop, if_neg hc, if_neg (by simp [hspace]), if_neg hmark, hclose, hreturn, hkey,
    scanLoop_nil]
  simp only [hopen, hline]

theorem take_openMark (p : Text) : ('/' :: '*' :: p).take 2 = openMark := rfl

theorem take_lineMark (p : Text) : ('-' :: '-' :: p).take 2 = lineMark := rfl

theorem eq_of_take_two (h : (c :: t).take 2 = [a, b]) : ∃ t', c = a ∧ t = b :: t' := by
  cases t with
  | nil => simp at h
  | cons d t =>
    simp only [take_succ_cons, take_zero, List.cons.injEq, and_true] at h
    exact ⟨t, h.1, by rw [h.2]⟩

theorem isKeyword_cons_ne (h : isKeyword (c :: t) = true) :
    isSpace c = false ∧ (c :: t).take 2 ≠ openMark ∧ (c :: t).take 2 ≠ lineMark := by
  have hnot : ∀ a, c = a → a ∈ [' ', '\t', '\n', '\x0b', '\x0c', '\r', '/', '-', '*'] → False := by
    rintro a rfl ha
    simp only [isKeyword, take_succ_cons, map_cons, Bool.or_eq_true, decide_eq_true_eq,
      List.cons.injEq] at h
    fin_cases ha <;> exact h.elim (fun h => absurd h.1 (by decide)) fun h => absurd h.1 (by decide)
  refine ⟨?_, fun hmark => ?_, fun hmark => ?_⟩
  · by_contra hspace
    have hmem : c ∈ [' ', '\t', '\n', '\x0b', '\x0c', '\r'] :=
      of_decide_eq_true ((Bool.not_eq_false _).mp hspace)
    exact hnot c rfl (mem_append_left ['/', '-', '*'] hmem)
  · obtain ⟨_, hc, -⟩ := eq_of_take_two hmark
    exact hnot _ hc (by decide)
  · obtain ⟨_, hc, -⟩ := eq_of_take_two hmark
    exact hnot _ hc (by decide)

theorem not_isKeyword_of_mem (h : c ∈ ['/', '*']) : isKeyword (c :: t) = false := by
  fin_cases h <;> simp [isKeyword]

theorem afterClose_suffix : ∀ {t : Text}, afterClose t = some rest →
    rest.length < t.length ∧ rest ⊆ t := by
  intro t
  induction t with
  | nil => exact fun h => nomatch h
  | cons c t ih =>
    intro h
    rw [afterClose] at h
    split at h
    · cases h
      refine ⟨by simp, fun a ha => mem_cons_of_mem _ (mem_of_mem_drop ha)⟩
    · obtain ⟨hlen, hsub⟩ := ih h
      exact ⟨hlen.trans (Nat.lt_succ_self _), fun a ha => mem_cons_of_mem _ (hsub ha)⟩

theorem afterClose_cons_ne (h : c ≠ '*') : afterClose (c :: t) = afterClose t := by
  rw [afterClose, if_neg]
  intro hmark
  obtain ⟨_, hc, -⟩ := eq_of_take_two hmark
  exact h hc

end Turn

/-! ## Staying inside -/

section Inside

theorem Harmless.scanLoop_ok {t : Text} (h : Harmless t) (ht : nul ∉ t) :
    ∃ b, scanLoop (cString t) = .ok b := by
  induction h with
  | nil => exact ⟨false, scanLoop_end⟩
  | @keyword p hkey =>
    cases p with
    | nil => exact absurd hkey (by decide)
    | cons c p =>
      obtain ⟨hspace, hopen, hline⟩ := isKeyword_cons_ne hkey
      exact ⟨true, by rw [scanLoop_cString ht hspace, if_neg hopen, if_neg hline, if_pos hkey]⟩
  | @block p rest hrest _ ih =>
    have hsub := (afterClose_suffix hrest).2
    obtain ⟨b, hb⟩ := ih fun hmem => ht (mem_cons_of_mem _ (hsub hmem))
    refine ⟨b, ?_⟩
    rw [scanLoop_cString ht (by decide), if_pos (take_openMark p), afterClose_cons_ne (by decide),
      hrest]
    exact hb
  | @skip c p hopen hline _ ih =>
    obtain ⟨b, hb⟩ := ih fun hmem => ht (mem_cons_of_mem _ hmem)
    by_cases hspace : isSpace c = true
    · exact ⟨b, (scanLoop_space hspace).trans hb⟩
    · rw [scanLoop_cString ht (by simpa using hspace), if_neg hopen, if_neg hline]
      split
      · exact ⟨true, rfl⟩
      · exact ⟨b, hb⟩

/-- A scan that stays inside the text has met no `--` and no open comment. -/
theorem harmless_of_scanLoop : ∀ (n : ℕ) (t : Text), t.length = n → nul ∉ t →
    ∀ b, scanLoop (cString t) = .ok b → Harmless t := by
  intro n
  induction n using Nat.strong_induction_on with
  | _ n ih =>
    intro t hn ht b hb
    cases t with
    | nil => exact .nil
    | cons c t =>
      have ht' : nul ∉ t := fun hmem => ht (mem_cons_of_mem _ hmem)
      have hnext := ih t.length (by rw [← hn]; exact Nat.lt_succ_self _) t rfl ht'
      by_cases hspace : isSpace c = true
      · have hmark : ∀ a, c = a → a ∈ ['/', '-'] → False := by
          rintro a rfl ha
          fin_cases ha <;> exact absurd hspace (by decide)
        refine .skip (fun h => ?_) (fun h => ?_) (hnext b ((scanLoop_space hspace).symm.trans hb))
        · obtain ⟨_, hc, -⟩ := eq_of_take_two h
          exact hmark _ hc (by decide)
        · obtain ⟨_, hc, -⟩ := eq_of_take_two h
          exact hmark _ hc (by decide)
      · rw [scanLoop_cString ht (by simpa using hspace)] at hb
        split_ifs at hb with hopen hline hkey
        · obtain ⟨t, rfl, rfl⟩ := eq_of_take_two hopen
          rw [afterClose_cons_ne (by decide)] at hb
          cases hrest : afterClose ('*' :: t) with
          | none =>
            rw [hrest] at hb
            exact absurd (scanLoop_nil.symm.trans hb) (by simp)
          | some rest =>
            rw [hrest] at hb
            obtain ⟨hlen, hsub⟩ := afterClose_suffix hrest
            refine .block hrest (ih rest.length ?_ rest rfl (fun hmem => ht' (hsub hmem)) b hb)
            rw [← hn, length_cons]
            exact hlen.trans (Nat.lt_succ_self _)
        · exact .keyword hkey
        · exact .skip hopen hline (hnext b hb)

end Inside

/-! ## Behind comments -/

section Comments

variable {t rest : Text}

theorem Leading.head_ne_star (h : Leading t) : t.head? ≠ some '*' := by
  cases h with
  | keyword hkey =>
    cases t with
    | nil => exact fun h => nomatch h
    | cons c t =>
      rintro ⟨⟩
      exact absurd hkey (by rw [not_isKeyword_of_mem (by decide)]; decide)
  | @space c p hspace _ =>
    rintro ⟨⟩
    exact absurd hspace (by decide)
  | line | block => simp

/-- From inside of a comment the loop comes to what follows it, if it stays in the text:
after `/*/` it takes the comment for closed and reads on inside. -/
theorem scanLoop_inside (hrest : Leading rest)
    (htrue : ∀ b, scanLoop (cString rest) = .ok b → b = true) :
    ∀ (n : ℕ) (t : Text), t.length = n → nul ∉ t → afterClose t = some rest →
      ∀ b, scanLoop (cString t) = .ok b → b = true := by
  intro n
  induction n using Nat.strong_induction_on with
  | _ n ih =>
    intro t hn ht hclose b hb
    cases t with
    | nil => cases hclose
    | cons c t =>
      have ht' : nul ∉ t := fun hmem => ht (mem_cons_of_mem _ hmem)
      have hnext := ih t.length (by rw [← hn]; exact Nat.lt_succ_self _) t rfl ht'
      by_cases hspace : isSpace c = true
      · have hstar : c ≠ '*' := by
          rintro rfl
          exact absurd hspace (by decide)
        rw [afterClose_cons_ne hstar] at hclose
        exact hnext hclose b ((scanLoop_space hspace).symm.trans hb)
      · rw [scanLoop_cString ht (by simpa using hspace)] at hb
        split_ifs at hb with hopen hline hkey
        · rw [hclose] at hb
          exact htrue b hb
        · exact (Except.ok.inj hb).symm
        · rw [afterClose] at hclose
          split_ifs at hclose with hmark
          · -- the end of the comment: its slash is passed, and the text behind it reached
            obtain ⟨t, rfl, rfl⟩ := eq_of_take_two hmark
            cases hclose
            have hslash : ('/' :: t).take 2 ≠ openMark := by
              intro hopen'
              obtain ⟨t', -, rfl⟩ := eq_of_take_two hopen'
              exact hrest.head_ne_star rfl
            rw [scanLoop_cString ht' (by decide), if_neg hslash, if_neg (by simp [lineMark]),
              not_isKeyword_of_mem (by decide)] at hb
            exact htrue b hb
          · exact hnext hclose b hb

/-- **Behind comments the answer is `true`, if there is one.** -/
theorem Leading.scanLoop_true (h : Leading t) :
    nul ∉ t → ∀ b, scanLoop (cString t) = .ok b → b = true := by
  induction h with
  | @keyword p hkey =>
    intro ht b hb
    cases p with
    | nil => exact absurd hkey (by decide)
    | cons c p =>
      obtain ⟨hspace, hopen, hline⟩ := isKeyword_cons_ne hkey
      rw [scanLoop_cString ht hspace, if_neg hopen, if_neg hline, if_pos hkey] at hb
      exact (Except.ok.inj hb).symm
  | @space c p hspace _ ih =>
    intro ht b hb
    exact ih (fun hmem => ht (mem_cons_of_mem _ hmem)) b
      ((scanLoop_space hspace).symm.trans hb)
  | @line p rest _ _ _ =>
    intro ht b hb
    rw [scanLoop_cString ht (by decide), if_neg (by simp [openMark]),
      if_pos (take_lineMark p)] at hb
    cases hb
  | @block p rest hclose hlead ih =>
    intro ht b hb
    have hp : nul ∉ p := fun hmem => ht (mem_cons_of_mem _ (mem_cons_of_mem _ hmem))
    have htrue := ih fun hmem => hp ((afterClose_suffix hclose).2 hmem)
    rw [scanLoop_cString ht (by decide), if_pos (take_openMark p), afterClose_cons_ne (by decide),
      afterClose] at hb
    split_ifs at hb with hmark
    · obtain ⟨p, -, rfl⟩ := eq_of_take_two hmark
      rw [afterClose_cons_ne (by decide)] at hclose
      have hp' : nul ∉ p := fun hmem => hp (mem_cons_of_mem _ hmem)
      exact scanLoop_inside hlead htrue p.length p rfl hp' hclose b hb
    · rw [hclose] at hb
      exact htrue b hb

end Comments

/-! ## The main statement -/

theorem poolIsLikelySelect_eq (ignoreLeadingWhiteSpace : Bool) (s : Text) :
    poolIsLikelySelect ignoreLeadingWhiteSpace (some s) = scanLoop (cString s) := by
  have hstart : ∀ p : Text, (match p.head? with
      | none => .error .overrun
      | some c => if c = nul then .ok false else scanLoop p) = scanLoop p := by
    intro p
    cases p with
    | nil => exact scanLoop_nil.symm
    | cons c p =>
      by_cases hc : c = nul
      · rw [scanLoop, if_pos hc]
        simp [hc]
      · simp [hc]
  cases ignoreLeadingWhiteSpace with
  | false => exact hstart _
  | true => exact (hstart _).trans (scanLoop_skipSpaces)

/-- **Every text gets an answer, and a text that leads to `SELECT` or `WITH` the answer yes**, if
and only if no comment in front of the keyword is misread (`Harmless`). -/
theorem likely_select_iff (ignoreLeadingWhiteSpace : Bool) (s : Text) (hs : nul ∉ s) :
    ((∃ b, poolIsLikelySelect ignoreLeadingWhiteSpace (some s) = .ok b) ∧
      (Leading s → poolIsLikelySelect ignoreLeadingWhiteSpace (some s) = .ok true)) ↔
      Harmless s := by
  rw [poolIsLikelySelect_eq]
  constructor
  · rintro ⟨⟨b, hb⟩, -⟩
    exact harmless_of_scanLoop s.length s rfl hs b hb
  · intro h
    obtain ⟨b, hb⟩ := h.scanLoop_ok hs
    refine ⟨⟨b, hb⟩, fun hlead => ?_⟩
    rw [hb, hlead.scanLoop_true hs b hb]

/-- `/* a */ SELECT 1` -/
theorem likely_select_c_comment :
    ((∃ b, poolIsLikelySelect true (some "/* a */ SELECT 1".toList) = .ok b) ∧
      (Leading "/* a */ SELECT 1".toList →
        poolIsLikelySelect true (some "/* a */ SELECT 1".toList) = .ok true)) ↔
      Harmless "/* a */ SELECT 1".toList :=
  likely_select_iff true "/* a */ SELECT 1".toList (by decide)

/-- A `--` comment is read to the NUL and beyond. -/
theorem line_comment_overrun :
    Leading "--\nSELECT 1".toList ∧ nul ∉ "--\nSELECT 1".toList ∧
      poolIsLikelySelect true (some "--\nSELECT 1".toList) = .error .overrun := by
  have hnewline : afterNewline "\nSELECT 1".toList = some "SELECT 1".toList := by decide
  refine ⟨.line hnewline (.keyword (by decide)), by decide, ?_⟩
  have hturn := scanLoop_cString (c := '-') (t := "-\nSELECT 1".toList) (by decide) (by decide)
  rw [if_neg (by decide), if_pos (by decide)] at hturn
  rw [poolIsLikelySelect_eq]
  exact hturn

end PgBalancer.LikelySelect
