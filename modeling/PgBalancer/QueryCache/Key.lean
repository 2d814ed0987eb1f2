import PgBalancer.QueryCache.StoreRun

/-!
# Cache keys

A result is stored under the MD5 signature of user name, query and database name
written one after the other, without anything in between.  The documentation has
the cache save user name, database name and statement together with the result,
so the text that is hashed ought to determine all three.

* `strkey_injective_iff` — **two sessions never share a key text exactly when
  they agree on user and database, or neither user name is the beginning of the
  other, or neither database name is the end of the other.**
* `fetch_own_result` — **a fetch returns only what was committed under its key.**
-/

namespace PgBalancer.QueryCache

open List

/-- A C string: bytes without a NUL. -/
structure CString where
  bytes : List UInt8
  no_nul : 0 ∉ bytes
  deriving DecidableEq

/-- Who is connected to what: `backend->info->user` and `backend->info->database`. -/
structure Identity where
  user : CString
  database : CString
  user_ne : user.bytes ≠ []
  database_ne : database.bytes ≠ []
  deriving DecidableEq

/-- The text `encode_key` hashes: `"%s%s%s"` of user, query and database. -/
def strkey (who : Identity) (query : CString) : List UInt8 :=
  who.user.bytes ++ query.bytes ++ who.database.bytes

/-- `encode_key`, over the hash function `md5`. -/
def encodeKey (md5 : List UInt8 → QueryHash) (who : Identity) (query : CString) : QueryHash :=
  md5 (strkey who query)

namespace CString

@[ext] theorem ext {a b : CString} (h : a.bytes = b.bytes) : a = b := by
  cases a; cases b; cases h; rfl

end CString

/-- `a` and `b` are told apart by the beginning or by the end of the key text. -/
def Separated (a b : Identity) : Prop :=
  a = b ∨
    ¬ (a.user.bytes <+: b.user.bytes ∨ b.user.bytes <+: a.user.bytes) ∨
    ¬ (a.database.bytes <:+ b.database.bytes ∨ b.database.bytes <:+ a.database.bytes)

variable {a b : Identity} {q r : CString}

theorem comparable_of_strkey_eq (h : strkey a q = strkey b r) :
    (a.user.bytes <+: b.user.bytes ∨ b.user.bytes <+: a.user.bytes) ∧
      (a.database.bytes <:+ b.database.bytes ∨ b.database.bytes <:+ a.database.bytes) := by
  have hau : a.user.bytes <+: strkey a q := ⟨q.bytes ++ a.database.bytes, by simp [strkey]⟩
  have hbu : b.user.bytes <+: strkey a q := ⟨r.bytes ++ b.database.bytes, by rw [h]; simp [strkey]⟩
  have had : a.database.bytes <:+ strkey a q := ⟨a.user.bytes ++ q.bytes, rfl⟩
  have hbd : b.database.bytes <:+ strkey a q := ⟨b.user.bytes ++ r.bytes, by rw [h]; rfl⟩
  refine ⟨?_, suffix_or_suffix_of_suffix had hbd⟩
  exact prefix_or_prefix_of_prefix hau hbu

theorem strkey_query_injective (h : strkey a q = strkey a r) : q = r := by
  simp only [strkey, append_cancel_right_eq, append_cancel_left_eq] at h
  exact CString.ext h

theorem Separated.strkey_injective (hs : Separated a b) (h : strkey a q = strkey b r) :
    a = b ∧ q = r := by
  obtain ⟨hu, hd⟩ := comparable_of_strkey_eq h
  rcases hs with rfl | hu' | hd'
  · exact ⟨rfl, strkey_query_injective h⟩
  · exact absurd hu hu'
  · exact absurd hd hd'

/-- If both names are comparable, the longer user name and the longer database
name can be completed to one key text by suitable queries, neither of them
empty. -/
theorem exists_strkey_eq (hu : a.user.bytes <+: b.user.bytes ∨ b.user.bytes <+: a.user.bytes)
    (hd : a.database.bytes <:+ b.database.bytes ∨ b.database.bytes <:+ a.database.bytes) :
    ∃ q r : CString, q.bytes ≠ [] ∧ r.bytes ≠ [] ∧ strkey a q = strkey b r := by
  have hleft : ∀ {u v : CString} {x : List UInt8}, u.bytes ++ x = v.bytes → 0 ∉ x :=
    fun {u v x} hx h0 => v.no_nul (hx ▸ mem_append_right _ h0)
  have hright : ∀ {u v : CString} {y : List UInt8}, y ++ u.bytes = v.bytes → 0 ∉ y :=
    fun {u v y} hy h0 => v.no_nul (hy ▸ mem_append_left _ h0)
  rcases hu with ⟨x, hx⟩ | ⟨x, hx⟩ <;> rcases hd with ⟨y, hy⟩ | ⟨y, hy⟩
  · exact ⟨⟨x ++ 32 :: y, by simp [hleft hx, hright hy]⟩, ⟨[32], by simp⟩, by simp, by simp,
      by simp [strkey, ← hx, ← hy]⟩
  · exact ⟨⟨x ++ [32], by simp [hleft hx]⟩, ⟨32 :: y, by simp [hright hy]⟩, by simp, by simp,
      by simp [strkey, ← hx, ← hy]⟩
  · exact ⟨⟨32 :: y, by simp [hright hy]⟩, ⟨x ++ [32], by simp [hleft hx]⟩, by simp, by simp,
      by simp [strkey, ← hx, ← hy]⟩
  · exact ⟨⟨[32], by simp⟩, ⟨x ++ 32 :: y, by simp [hleft hx, hright hy]⟩, by simp, by simp,
      by simp [strkey, ← hx, ← hy]⟩

/-- **When the key text determines user, query and database.** -/
theorem strkey_injective_iff (a b : Identity) :
    (∀ q r : CString, strkey a q = strkey b r → a = b ∧ q = r) ↔ Separated a b := by
  constructor
  · intro hinj
    by_contra hs
    rw [Separated, not_or, not_or, not_not, not_not] at hs
    obtain ⟨q, r, -, -, h⟩ := exists_strkey_eq hs.2.1 hs.2.2
    exact hs.1 (hinj q r h).1
  · exact fun hs q r h => hs.strkey_injective h

/-- The strings `alice`, `xdb`, `db`, `SELECT 1--` and `SELECT 1--x`: a comment at
the end of the query takes over the first letter of the database name. -/
theorem strkey_collision : let alice : CString := ⟨[97, 108, 105, 99, 101], by decide⟩
    let xdb : CString := ⟨[120, 100, 98], by decide⟩
    let db : CString := ⟨[100, 98], by decide⟩
    let q : CString := ⟨[83, 69, 76, 69, 67, 84, 32, 49, 45, 45], by decide⟩
    let qx : CString := ⟨[83, 69, 76, 69, 67, 84, 32, 49, 45, 45, 120], by decide⟩
    strkey ⟨alice, xdb, by decide, by decide⟩ q = strkey ⟨alice, db, by decide, by decide⟩ qx ∧
      xdb ≠ db ∧ q ≠ qx := by
  decide

/-! ## What a fetch can return -/

/-- What sessions do to the store. -/
inductive SessionOp where
  /-- a result is committed -/
  | commit (who : Identity) (query : CString) (data : List UInt8) (expire now : Int64)
  /-- a result is looked for -/
  | fetch (who : Identity) (query : CString) (now now' : Int64)
  /-- an item is invalidated -/
  | invalidate (cacheid : CacheId)
  /-- a block is recycled -/
  | evict
  /-- the cache is cleared -/
  | clear

/-- The operation on the store behind it. -/
def SessionOp.toStoreOp (md5 : List UInt8 → QueryHash) : SessionOp → StoreOp
  | .commit who query data expire now => .add (encodeKey md5 who query) data expire now
  | .fetch who query now now' => .get (encodeKey md5 who query) now now'
  | .invalidate cacheid => .delete cacheid
  | .evict => .reuse
  | .clear => .clear

theorem added_mem {cfg : Config} {s₀ : Store} {t : Traced} {ops : List StoreOp}
    (h0 : initialStore cfg = some s₀) (hrun : run cfg ⟨s₀, fun _ => none⟩ ops = some t) :
    ∀ key data, t.added key = some data → ∃ expire now, .add key data expire now ∈ ops := by
  refine (History.run_keeps (I := fun t => Inv cfg t ∧ ∀ key data, t.added key = some data →
    ∃ expire now, .add key data expire now ∈ ops) ?_ ⟨inv_initial h0, nofun⟩ hrun).2
  intro op hop t₁ t₂ ⟨hinv, hmem⟩ hstep
  refine ⟨hinv.step h0 hstep, ?_⟩
  obtain ⟨c, hrep, -⟩ := hinv
  obtain ⟨-, -, ⟨-, hadded⟩ | ⟨key, data, expire, now, -, rfl, hadded, -⟩⟩ := step_spec hrep hstep
  · rwa [hadded]
  · intro key' data' h
    rw [hadded, Function.update_apply] at h
    split at h
    · next heq =>
      rw [heq, ← Option.some.inj h]
      exact ⟨expire, now, hop⟩
    · exact hmem key' data' h

/-- `pool_fetch_cache`: `none` is the ERROR raised for an empty query. -/
def poolFetchCache (cfg : Config) (md5 : List UInt8 → QueryHash) (s : Store) (who : Identity)
    (query : CString) (now now' : Int64) : Option (GetResult × Store) :=
  if query.bytes = [] then none
  else some (poolGetItemShmemCache cfg s (encodeKey md5 who query) now now')

/-- What is fetched has been committed under the same key.  If the two key texts do not collide
under the hash, and the sessions are told apart, then it was by the same user, in the same database
and for the same query. -/
def FetchesCommitted (cfg : Config) (md5 : List UInt8 → QueryHash) (s : Store)
    (ops : List SessionOp) : Prop :=
  ∀ who query now now' data s',
    poolFetchCache cfg md5 s who query now now' = some (.found data, s') →
    ∃ who' query' expire at', .commit who' query' data expire at' ∈ ops ∧
      encodeKey md5 who' query' = encodeKey md5 who query ∧
      (strkey who' query' = strkey who query → Separated who' who → who' = who ∧ query' = query)

/-- **Whatever the sessions do, a fetch returns nothing but results committed under its key.** -/
theorem fetch_own_result {cfg : Config} {s₀ : Store} (md5 : List UInt8 → QueryHash)
    (h0 : initialStore cfg = some s₀) (ops : List SessionOp) :
    ∃ t, run cfg ⟨s₀, fun _ => none⟩ (ops.map (SessionOp.toStoreOp md5)) = some t ∧
      FetchesCommitted cfg md5 t.store ops := by
  obtain ⟨t, hrun, c, hrep, hrec⟩ :=
    run_inv h0 (ops.map (SessionOp.toStoreOp md5)) _ (inv_initial h0)
  refine ⟨t, hrun, fun who query now now' data s' hfetch => ?_⟩
  unfold poolFetchCache at hfetch
  split at hfetch
  · cases hfetch
  · obtain ⟨c', hrep', hsub, hr⟩ := hrep.findItem (encodeKey md5 who query) now now'
    have hdata := congrArg Prod.fst (Option.some.inj hfetch)
    -- the data is the one recorded for the key, so an addition brought it in
    have hadded : t.added (encodeKey md5 who query) = some data := by
      rcases Recorded.itemData (hrec.sub hsub rfl) hrep' hr with hnone | ⟨d, hfound, hd⟩
      · exact absurd (hnone.symm.trans hdata) (by simp)
      · have hdd : d = data := by simpa using hfound.symm.trans hdata
        rwa [hdd] at hd
    obtain ⟨expire, at', hmem⟩ := added_mem h0 hrun _ _ hadded
    obtain ⟨op, hop, hadd⟩ := mem_map.1 hmem
    cases op with
    | commit who' query' data' expire' now' =>
      simp only [SessionOp.toStoreOp, StoreOp.add.injEq] at hadd
      obtain ⟨hkey, rfl, rfl, rfl⟩ := hadd
      exact ⟨who', query', _, _, hop, hkey, fun htext hs => hs.strkey_injective htext⟩
    | fetch _ _ _ _ | invalidate _ | evict | clear => cases hadd

/-- A result is committed, and found again under the same key. -/
theorem fetch_own_result_smallConfig : ∃ s₀, initialStore smallConfig = some s₀ ∧
    let who : Identity := ⟨⟨[97], by decide⟩, ⟨[100], by decide⟩, by decide, by decide⟩
    let query : CString := ⟨[113], by decide⟩
    let md5 (text : List UInt8) := constKey (text.headD 0)
    let ops : List SessionOp := [.commit who query [1, 2] 0 0]
    ∃ t, run smallConfig ⟨s₀, fun _ => none⟩ (ops.map (SessionOp.toStoreOp md5)) = some t ∧
      (poolFetchCache smallConfig md5 t.store who query 0 0).map Prod.fst = some (.found [1, 2]) ∧
      FetchesCommitted smallConfig md5 t.store ops := by
  obtain ⟨s₀, hinit⟩ : ∃ s₀, initialStore smallConfig = some s₀ := ⟨_, rfl⟩
  refine ⟨s₀, hinit, ?_⟩
  intro who query md5 ops
  obtain ⟨t, hrun, hfetches⟩ := fetch_own_result md5 hinit ops
  refine ⟨t, hrun, ?_, hfetches⟩
  have hfound : ((initialStore smallConfig).bind fun s₀ =>
      run smallConfig ⟨s₀, fun _ => none⟩ (ops.map (SessionOp.toStoreOp md5))).map
        (fun t => (poolFetchCache smallConfig md5 t.store who query 0 0).map Prod.fst) =
          some (some (.found [1, 2])) := by
    decide +kernel
  rw [hinit, Option.bind_some, hrun] at hfound
  exact Option.some.inj hfound

end PgBalancer.QueryCache
