import PgBalancer.Lib.MachineInt

/-!
# The relation cache of a process

`pool_search_relcache` answers a question about a table from an array of answers, and asks the
catalog when it finds none.  An entry is found by the names of the database and of the table; the
names are cut to 1023 bytes when they are stored, and compared without regard to letter case.  An
entry that is too old is not used, and in a cache that is local to the session an entry of
another session is not used either.  When the array is full the entry that was used least is
replaced.

* `relcache_transparent_iff` — **all sequences over a set of names are transparent if and only if
  the comparison tells the names apart, and no name is that of a blank entry**.
-/

namespace PgBalancer.Relcache

open List

open MachineInt (wrapLong wrapLong_of_small)

/-! ## Names -/

/-- The bytes of a C string. -/
abbrev Name := List UInt8

/-- `MAX_ITEM_LENGTH` -/
def maxItemLength : ℕ := 1024

/-- `strlcpy(.., name, MAX_ITEM_LENGTH)` -/
def strlcpy (name : Name) : Name := name.take (maxItemLength - 1)

/-- `tolower` -/
def tolower (c : UInt8) : UInt8 := if 65 ≤ c ∧ c ≤ 90 then c + 32 else c

/-- `strcasecmp(s, t) == 0` -/
def sameName (s t : Name) : Bool := s.map tolower = t.map tolower

/-! ## The cache -/

/-- `PoolRelCache`; the pointer `data` is `none` if it is `NULL`. -/
structure Entry (δ : Type) where
  dbname : Name
  relname : Name
  data : Option δ
  refcnt : ℕ
  sessionId : ℤ
  expire : ℤ
  deriving DecidableEq

/-- What is fixed when a `POOL_RELCACHE` is created. -/
structure CacheConfig where
  num : ℕ
  cacheIsSessionLocal : Bool
  noCacheIfZero : Bool
  /-- `pool_config->relcache_expire` -/
  relcacheExpire : ℤ
  expire_nonneg : 0 ≤ relcacheExpire
  expire_lt : relcacheExpire < 2 ^ 63

/-- A call of `pool_search_relcache`, with what it reads. -/
structure Lookup (δ : Type) where
  dbname : Name
  table : Name
  /-- `pool_get_local_session_id()` -/
  session : ℤ
  /-- `time(NULL)` -/
  now : ℤ
  /-- `pool_is_ignore_till_sync()` -/
  ignoreTillSync : Bool
  /-- what `register_func` makes of the answer of the catalog; `none` if the query fails -/
  answer : Option (Option δ)
  /-- Sessions are counted from 1. -/
  session_ne : session ≠ 0
  now_nonneg : 0 ≤ now
  now_lt : now < 2 ^ 63

/-- How a lookup ends. -/
inductive Reply (δ : Type) where
  /-- there is no session -/
  | null
  | hit (data : Option δ)
  /-- the answer of the catalog, and whether it was stored -/
  | missed (data : Option δ) (registered : Bool)
  | failed
  deriving DecidableEq

section Search

variable {δ : Type} (cfg : CacheConfig) (q : Lookup δ)

/-- An entry of `palloc0`. -/
def blank : Entry δ := ⟨[], [], none, 0, 0, 0⟩

/-- `pool_create_relcache` -/
def poolCreateRelcache : List (Entry δ) := List.replicate cfg.num blank

/-- The entry is not of another session, as far as that matters. -/
def ownSession (e : Entry δ) : Bool := !cfg.cacheIsSessionLocal || e.sessionId == q.session

/-- The entry has the names of the lookup. -/
def sameNames (e : Entry δ) : Bool := sameName e.dbname q.dbname && sameName e.relname q.table

/-- The entry has expired. -/
def expired (e : Entry δ) : Bool := decide (0 < e.expire) && decide (e.expire < q.now)

/-- The first loop: it ends at the first entry with the names. -/
def lookFor : List (Entry δ) → Option (Option δ) × List (Entry δ)
  | [] => (none, [])
  | e :: cache =>
    if ownSession cfg q e && sameNames q e then
      if expired q e then (none, { e with refcnt := 0 } :: cache)
      else (some e.data, { e with refcnt := min (e.refcnt + 1) (2 ^ 31 - 1) } :: cache)
    else
      let (found, cache) := lookFor cache
      (found, e :: cache)

/-- The second loop: the entry to replace. -/
def lookForReplacement : ℕ → ℕ → ℕ → List (Entry δ) → ℕ × List (Entry δ)
  | _, index, _, [] => (index, [])
  | i, index, maxrefcnt, e :: cache =>
    if cfg.cacheIsSessionLocal && e.sessionId != q.session then
      (i, { e with refcnt := 0 } :: cache)
    else if e.refcnt = 0 then (i, e :: cache)
    else if e.refcnt < maxrefcnt then
      let (index, cache) := lookForReplacement (i + 1) i e.refcnt cache
      (index, e :: cache)
    else
      let (index, cache) := lookForReplacement (i + 1) index maxrefcnt cache
      (index, e :: cache)

/-- What is stored. -/
def newEntry (result : Option δ) : Entry δ where
  dbname := strlcpy q.dbname
  relname := strlcpy q.table
  data := result
  refcnt := 1
  sessionId := q.session
  expire := if cfg.relcacheExpire > 0 then wrapLong (q.now + cfg.relcacheExpire) else 0

/-- `pool_search_relcache`, for the local cache. -/
def poolSearchRelcache (cache : List (Entry δ)) : Reply δ × List (Entry δ) :=
  if q.session < 0 then (.null, cache)
  else
    match lookFor cfg q cache with
    | (some data, cache) => (.hit data, cache)
    | (none, cache) =>
      match q.answer with
      | none => (.failed, cache)
      | some result =>
        let (index, cache) := lookForReplacement cfg q 0 0 (2 ^ 31 - 1) cache
        if !q.ignoreTillSync && (!cfg.noCacheIfZero || result.isSome) then
          (.missed result true, cache.set index (newEntry cfg q result))
        else (.missed result false, cache)

/-- The lookups of a process, with their replies. -/
def run : List (Entry δ) → List (Lookup δ) → List (Lookup δ × Reply δ)
  | _, [] => []
  | cache, q :: qs =>
    let (reply, cache) := poolSearchRelcache cfg q cache
    (q, reply) :: run cache qs

end Search

/-! ## What a hit may return -/

section Transparency

variable {δ : Type} {cfg : CacheConfig}

/-- The answer that `p` registered is one for `q`. -/
structure Answers (cfg : CacheConfig) (p q : Lookup δ) : Prop where
  dbname : p.dbname = q.dbname
  table : p.table = q.table
  session : cfg.cacheIsSessionLocal → p.session = q.session
  /-- An expiration time of 0 is none. -/
  age : 0 < cfg.relcacheExpire → q.now - p.now ≤ cfg.relcacheExpire

/-- Every hit returns what a miss before it has registered. -/
def Transparent (cfg : CacheConfig) (trace : List (Lookup δ × Reply δ)) : Prop :=
  ∀ before q data after, trace = before ++ (q, .hit data) :: after →
    ∃ p, (p, .missed data true) ∈ before ∧ Answers cfg p q

/-- The name under which the first is stored is taken for the second. -/
def Clash (p q : Name × Name) : Prop :=
  sameName (strlcpy p.1) q.1 ∧ sameName (strlcpy p.2) q.2

/-- The condition on the pairs of a database and a table. -/
structure Distinguished (cfg : CacheConfig) (names : Set (Name × Name)) : Prop where
  apart : ∀ p ∈ names, ∀ q ∈ names, Clash p q → p = q
  /-- The names of a blank entry are empty, and its session is none. -/
  named : cfg.cacheIsSessionLocal = false → ([], []) ∉ names

/-! ## One lookup -/

/-- The entry is blank, or was registered. -/
def Origin (cfg : CacheConfig) (before : List (Lookup δ × Reply δ)) (e : Entry δ) : Prop :=
  (e.dbname = [] ∧ e.relname = [] ∧ e.sessionId = 0) ∨
    ∃ p data, (p, .missed data true) ∈ before ∧
      { e with refcnt := 1 } = newEntry cfg p data

/-- **The invariant.** -/
def Backed (cfg : CacheConfig) (before : List (Lookup δ × Reply δ)) (cache : List (Entry δ)) :
    Prop :=
  ∀ e ∈ cache, Origin cfg before e

variable {before : List (Lookup δ × Reply δ)} {cache : List (Entry δ)} {q p : Lookup δ}

variable {e : Entry δ}

theorem Origin.recount (h : Origin cfg before e) (n : ℕ) :
    Origin cfg before { e with refcnt := n } := h

theorem Origin.append (h : Origin cfg before e) (more : List (Lookup δ × Reply δ)) :
    Origin cfg (before ++ more) e := by
  rcases h with hblank | ⟨p, data, hmem, heq⟩
  · exact .inl hblank
  · exact .inr ⟨p, data, mem_append_left _ hmem, heq⟩

theorem Backed.append (h : Backed cfg before cache) (more : List (Lookup δ × Reply δ)) :
    Backed cfg (before ++ more) cache :=
  fun e he => (h e he).append more

theorem backed_cons :
    Backed cfg before (e :: cache) ↔ Origin cfg before e ∧ Backed cfg before cache :=
  forall_mem_cons

theorem backed_create : Backed cfg before (poolCreateRelcache cfg : List (Entry δ)) := by
  intro e he
  rw [eq_of_mem_replicate he]
  exact .inl ⟨rfl, rfl, rfl⟩

theorem lookFor_backed (h : Backed cfg before cache) :
    Backed cfg before (lookFor cfg q cache).2 := by
  induction cache with
  | nil => exact h
  | cons e cache ih =>
    obtain ⟨he, hcache⟩ := backed_cons.1 h
    unfold lookFor
    split
    · split
      · exact backed_cons.2 ⟨he.recount _, hcache⟩
      · exact backed_cons.2 ⟨he.recount _, hcache⟩
    · exact backed_cons.2 ⟨he, ih hcache⟩

variable {data : Option δ} {names : Set (Name × Name)}

/-- What the first loop returns is the data of an entry with the names that has not expired. -/
theorem lookFor_found (h : (lookFor cfg q cache).1 = some data) :
    ∃ e ∈ cache, ownSession cfg q e ∧ sameNames q e ∧ expired q e = false ∧ e.data = data := by
  induction cache with
  | nil => cases h
  | cons e cache ih =>
    unfold lookFor at h
    split at h
    case isTrue hmatch =>
      obtain ⟨hown, hnames⟩ := Bool.and_eq_true_iff.1 hmatch
      split at h
      case isTrue => cases h
      case isFalse hexpired =>
        exact ⟨e, mem_cons_self, hown, hnames, Bool.not_eq_true _ ▸ hexpired,
          Option.some.inj h⟩
    case isFalse =>
      obtain ⟨e', he', hfound⟩ := ih h
      exact ⟨e', mem_cons_of_mem _ he', hfound⟩

section

variable (h : Backed cfg before cache)
include h

theorem lookForReplacement_backed : ∀ i index maxrefcnt,
      Backed cfg before (lookForReplacement cfg q i index maxrefcnt cache).2 := by
  induction cache with
  | nil => exact fun _ _ _ => h
  | cons e cache ih =>
    intro i index maxrefcnt
    obtain ⟨he, hcache⟩ := backed_cons.1 h
    unfold lookForReplacement
    split
    · exact backed_cons.2 ⟨he.recount 0, hcache⟩
    · split
      · exact h
      · split
        · exact backed_cons.2 ⟨he, ih hcache _ _ _⟩
        · exact backed_cons.2 ⟨he, ih hcache _ _ _⟩

theorem Backed.set (index : ℕ) (hmem : (q, .missed data true) ∈ before) :
    Backed cfg before (cache.set index (newEntry cfg q data)) := by
  intro e he
  rcases mem_or_eq_of_mem_set he with hold | rfl
  · exact h e hold
  · exact .inr ⟨q, data, hmem, rfl⟩

/-- **A lookup keeps the invariant.** -/
theorem poolSearchRelcache_backed : Backed cfg (before ++ [(q, (poolSearchRelcache cfg q cache).1)])
      (poolSearchRelcache cfg q cache).2 := by
  have hfirst := lookFor_backed (q := q) h
  unfold poolSearchRelcache
  split
  · exact h.append _
  · generalize lookFor cfg q cache = first at hfirst ⊢
    rcases first with ⟨_ | data, cache₁⟩
    · cases q.answer with
      | none => exact hfirst.append _
      | some result =>
        have hsecond := lookForReplacement_backed (q := q) hfirst 0 0 (2 ^ 31 - 1)
        dsimp only
        split
        · exact (hsecond.append _).set _ (by simp)
        · exact hsecond.append _
    · exact hfirst.append _

end

theorem hit_found (h : (poolSearchRelcache cfg q cache).1 = .hit data) :
    (lookFor cfg q cache).1 = some data := by
  unfold poolSearchRelcache at h
  split at h
  · cases h
  · generalize lookFor cfg q cache = first at h ⊢
    rcases first with ⟨_ | found, cache₁⟩
    · cases hanswer : q.answer with
      | none =>
        rw [hanswer] at h
        cases h
      | some result =>
        rw [hanswer] at h
        dsimp only at h
        split at h <;> cases h
    · exact congrArg some (Reply.hit.inj h)

/-- An entry that has not expired is not too old, even if the sum has overflown. -/
theorem age_le (data : Option δ) (h : expired q (newEntry cfg p data) = false)
    (hpos : 0 < cfg.relcacheExpire) : q.now - p.now ≤ cfg.relcacheExpire := by
  have hexpire : (newEntry cfg p data).expire = wrapLong (p.now + cfg.relcacheExpire) :=
    if_pos hpos
  have hp := p.now_nonneg
  have hp' := p.now_lt
  have hq := q.now_lt
  have hmax := cfg.expire_lt
  by_cases hlt : p.now + cfg.relcacheExpire < 2 ^ 63
  · rw [wrapLong_of_small (by omega) hlt] at hexpire
    simp only [expired, hexpire, Bool.and_eq_false_iff, decide_eq_false_iff_not] at h
    omega
  · omega

/-- **A hit is right, if the names can be told apart.** -/
theorem hit_answers (hnames : Distinguished cfg names)
    (hbefore : ∀ p reply, (p, reply) ∈ before → (p.dbname, p.table) ∈ names)
    (hq : (q.dbname, q.table) ∈ names) (h : Backed cfg before cache)
    (hhit : (poolSearchRelcache cfg q cache).1 = .hit data) :
    ∃ p, (p, .missed data true) ∈ before ∧ Answers cfg p q := by
  obtain ⟨e, he, hown, hsame, hexpired, rfl⟩ := lookFor_found (hit_found hhit)
  obtain ⟨hdbname, htable⟩ := Bool.and_eq_true_iff.1 hsame
  rcases h e he with ⟨hdb, hrel, hsession⟩ | ⟨p, data, hmem, hentry⟩
  · -- a blank entry has no names, and belongs to no session
    exfalso
    rw [hdb, sameName, decide_eq_true_eq, map_nil, eq_comm, map_eq_nil_iff] at hdbname
    rw [hrel, sameName, decide_eq_true_eq, map_nil, eq_comm, map_eq_nil_iff] at htable
    cases hlocal : cfg.cacheIsSessionLocal with
    | false =>
      rw [hdbname, htable] at hq
      exact hnames.named hlocal hq
    | true =>
      simp only [ownSession, hlocal, hsession, Bool.not_true, Bool.false_or, beq_iff_eq] at hown
      exact q.session_ne hown.symm
  · have hdb : e.dbname = strlcpy p.dbname := congrArg Entry.dbname hentry
    have hrel : e.relname = strlcpy p.table := congrArg Entry.relname hentry
    have hdata : e.data = data := congrArg Entry.data hentry
    have hsession : e.sessionId = p.session := congrArg Entry.sessionId hentry
    have hexpire : e.expire = (newEntry cfg p data).expire :=
      (congrArg Entry.expire hentry :)
    rw [hdb] at hdbname
    rw [hrel] at htable
    have hpair := hnames.apart _ (hbefore p _ hmem) _ hq ⟨hdbname, htable⟩
    refine ⟨p, hdata ▸ hmem, congrArg Prod.fst hpair, congrArg Prod.snd hpair, ?_, ?_⟩
    · intro hlocal
      simpa [ownSession, hlocal, hsession] using hown
    · refine age_le data ?_
      rwa [expired, ← hexpire]

/-! ## Sequences of lookups -/

theorem run_cons (qs : List (Lookup δ)) : run cfg cache (q :: qs) =
      (q, (poolSearchRelcache cfg q cache).1) :: run cfg (poolSearchRelcache cfg q cache).2 qs :=
  rfl

/-- **Over names that can be told apart the cache is transparent.** -/
theorem run_transparent (hnames : Distinguished cfg names) (qs : List (Lookup δ)) :
    ∀ {before : List (Lookup δ × Reply δ)} {cache : List (Entry δ)},
    Backed cfg before cache → (∀ p reply, (p, reply) ∈ before → (p.dbname, p.table) ∈ names) →
      (∀ q ∈ qs, (q.dbname, q.table) ∈ names) →
      ∀ middle q data after, run cfg cache qs = middle ++ (q, .hit data) :: after →
        ∃ p, (p, .missed data true) ∈ before ++ middle ∧ Answers cfg p q := by
  induction qs with
  | nil =>
    intro before cache _ _ _ middle q data after h
    exact absurd h.symm (by simp [run])
  | cons q₀ qs ih =>
    intro before cache hbacked hbefore hqs middle q data after h
    obtain ⟨hq₀, hqs⟩ := forall_mem_cons.1 hqs
    rw [run_cons] at h
    cases middle with
    | nil =>
      rw [nil_append] at h
      obtain ⟨hpair, -⟩ := List.cons.inj h
      obtain ⟨rfl, hhit⟩ := Prod.mk.inj hpair
      obtain ⟨p, hp⟩ := hit_answers hnames hbefore hq₀ hbacked hhit
      exact ⟨p, by simpa using hp⟩
    | cons m middle =>
      rw [cons_append] at h
      obtain ⟨rfl, hrest⟩ := List.cons.inj h
      have hbefore' : ∀ p reply,
          (p, reply) ∈ before ++ [(q₀, (poolSearchRelcache cfg q₀ cache).1)] →
            (p.dbname, p.table) ∈ names := by
        intro p reply hp
        rcases mem_append.1 hp with hp | hp
        · exact hbefore p reply hp
        · obtain ⟨rfl, -⟩ := Prod.mk.inj (mem_singleton.1 hp)
          exact hq₀
      obtain ⟨p, hp, hanswers⟩ :=
        ih (poolSearchRelcache_backed hbacked) hbefore' hqs middle q data after hrest
      exact ⟨p, by simpa using hp, hanswers⟩

theorem run_nil_cache (qs : List (Lookup δ)) {q : Lookup δ} : (q, .hit data) ∉ run cfg [] qs := by
  induction qs with
  | nil => exact not_mem_nil
  | cons q₀ qs ih =>
    have hnil : (poolSearchRelcache cfg q₀ []).2 = [] := by
      simp only [poolSearchRelcache, lookFor, lookForReplacement]
      repeat' split
      all_goals rfl
    rw [run_cons, hnil, mem_cons, not_or]
    refine ⟨fun h => ?_, ih⟩
    exact absurd (hit_found (Prod.mk.inj h).2.symm) (by simp [lookFor])

theorem create_cons (hnum : cfg.num ≠ 0) :
    ∃ cache : List (Entry δ), poolCreateRelcache cfg = blank :: cache := by
  obtain ⟨n, hn⟩ := Nat.exists_eq_succ_of_ne_zero hnum
  exact ⟨List.replicate n blank, by rw [poolCreateRelcache, hn, replicate_succ]⟩

/-- A lookup of the first session at time 0 that gets an answer. -/
def firstLookup (names : Name × Name) (data : δ) : Lookup δ where
  dbname := names.1
  table := names.2
  session := 1
  now := 0
  ignoreTillSync := false
  answer := some (some data)
  session_ne := by norm_num
  now_nonneg := le_rfl
  now_lt := by norm_num

theorem lookFor_none (h : ∀ e ∈ cache, (ownSession cfg q e && sameNames q e) = false) :
    lookFor cfg q cache = (none, cache) := by
  induction cache with
  | nil => rfl
  | cons e cache ih =>
    obtain ⟨he, hcache⟩ := forall_mem_cons.1 h
    rw [lookFor, he, ih hcache]
    rfl

theorem hit_head (hsession : ¬ q.session < 0) (hown : ownSession cfg q e) (hsame : sameNames q e)
    (hexpired : expired q e = false) : (poolSearchRelcache cfg q (e :: cache)).1 = .hit e.data := by
  rw [poolSearchRelcache, if_neg hsession, lookFor, hown, hsame, hexpired]
  rfl

theorem first_stored {names : Name × Name} {data : δ} {cache : List (Entry δ)}
    (hcache : poolCreateRelcache cfg = blank :: cache)
    (hnone : (ownSession cfg (firstLookup names data) blank &&
      sameNames (firstLookup names data) blank) = false) :
    poolSearchRelcache cfg (firstLookup names data) (poolCreateRelcache cfg) =
      (.missed (some data) true, newEntry cfg (firstLookup names data) (some data) :: cache) := by
  have hlook : lookFor cfg (firstLookup names data) (poolCreateRelcache cfg) =
      (none, poolCreateRelcache cfg) := by
    apply lookFor_none
    intro e he
    rwa [eq_of_mem_replicate he]
  have hsecond : lookForReplacement cfg (firstLookup names data) 0 0 (2 ^ 31 - 1)
      (blank :: cache) = (0, blank :: cache) := by
    rw [lookForReplacement]
    split
    · rfl
    · rfl
  rw [poolSearchRelcache, if_neg (by simp [firstLookup]), hlook, hcache]
  dsimp only [firstLookup] at hsecond ⊢
  rw [hsecond]
  simp

/-- **Every hit returns what a miss for the same relation has registered**, in all runs on these
names, if and only if the cache is off or the names can be told apart. -/
theorem relcache_transparent_iff {δ : Type} [Inhabited δ] (cfg : CacheConfig)
    (names : Set (Name × Name)) : (∀ qs : List (Lookup δ), (∀ q ∈ qs, (q.dbname, q.table) ∈ names) →
        Transparent cfg (run cfg (poolCreateRelcache cfg) qs)) ↔
      cfg.num = 0 ∨ Distinguished cfg names := by
  constructor
  · intro h
    by_cases hnum : cfg.num = 0
    · exact .inl hnum
    obtain ⟨cache, hcache⟩ : ∃ cache : List (Entry δ), poolCreateRelcache cfg = blank :: cache :=
      create_cons hnum
    have hnamed : cfg.cacheIsSessionLocal = false → ([], []) ∉ names := by
      intro hlocal hmem
      have hhit : (poolSearchRelcache cfg (firstLookup ([], []) default)
          (poolCreateRelcache cfg : List (Entry δ))).1 = .hit none := by
        rw [hcache]
        exact hit_head (by simp [firstLookup]) (by simp [ownSession, hlocal]) rfl rfl
      have htrans := h [firstLookup ([], []) default] (by simpa [firstLookup] using hmem)
      rw [run_cons, hhit] at htrans
      obtain ⟨p, hp, -⟩ := htrans [] _ none [] rfl
      cases hp
    refine .inr ⟨?_, hnamed⟩
    intro p hp q hq hclash
    have hnone : (ownSession cfg (firstLookup p (default : δ)) blank &&
        sameNames (firstLookup p (default : δ)) blank) = false := by
      cases hlocal : cfg.cacheIsSessionLocal with
      | true => simp [ownSession, hlocal, blank, firstLookup]
      | false =>
        by_contra hmatch
        have hpnil : p = ([], []) := by
          simpa [ownSession, hlocal, sameNames, sameName, blank, firstLookup, Prod.ext_iff]
            using hmatch
        exact hnamed hlocal (hpnil ▸ hp)
    have hstored := first_stored hcache hnone
    have hhit : (poolSearchRelcache cfg (firstLookup q default)
        (newEntry cfg (firstLookup p default) (some (default : δ)) :: cache)).1 =
          .hit (some default) := by
      refine hit_head (by simp [firstLookup]) (by simp [ownSession, newEntry, firstLookup])
        (Bool.and_eq_true_iff.2 hclash) ?_
      rw [expired, Bool.and_eq_false_iff, decide_eq_false_iff_not, decide_eq_false_iff_not]
      change ¬ _ ∨ ¬ _ < (0 : ℤ)
      omega
    have htrans := h [firstLookup p default, firstLookup q default]
      (by simpa [firstLookup] using ⟨hp, hq⟩)
    rw [run_cons, run_cons, hstored, hhit] at htrans
    obtain ⟨p', hp', hanswers⟩ := htrans [_] _ _ [] rfl
    obtain ⟨rfl, -⟩ := Prod.mk.inj (mem_singleton.1 hp')
    exact Prod.ext hanswers.dbname hanswers.table
  · rintro (hnum | hnames) qs hqs
    · intro before q data after h
      rw [poolCreateRelcache, hnum, replicate_zero] at h
      exact absurd (h ▸ mem_append_right _ mem_cons_self) (run_nil_cache qs)
    · intro before q data after h
      have hrun := @run_transparent δ cfg names hnames qs [] _ backed_create (by simp) hqs
      simpa using hrun before q data after h

end Transparency

/-- A cache of one entry, for all sessions, without expiration. -/
def oneEntry : CacheConfig where
  num := 1
  cacheIsSessionLocal := false
  noCacheIfZero := false
  relcacheExpire := 0
  expire_nonneg := le_rfl
  expire_lt := by norm_num

/-- In a database `d` the table `t` is asked for, and then another table `T`: it gets the answer
for `t`. -/
theorem case_confused : run oneEntry (poolCreateRelcache oneEntry)
        [firstLookup ([100], [116]) 1, firstLookup ([100], [84]) 2] =
      [(firstLookup ([100], [116]) 1, .missed (some 1) true),
        (firstLookup ([100], [84]) 2, .hit (some 1))] ∧
      ¬ Transparent oneEntry (run oneEntry (poolCreateRelcache oneEntry)
        [firstLookup ([100], [116]) 1, firstLookup ([100], [84]) 2]) := by
  refine ⟨rfl, fun h => ?_⟩
  obtain ⟨p, hp, hanswers⟩ := h [_] _ _ [] rfl
  obtain ⟨rfl, -⟩ := Prod.mk.inj (mem_singleton.1 hp)
  exact absurd hanswers.table (by decide)

end PgBalancer.Relcache
