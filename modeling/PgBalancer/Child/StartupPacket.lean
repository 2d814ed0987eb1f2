import Mathlib

/-!
# The startup packet of a client

A startup packet of protocol 3 is the version, followed by names and values of options, each of them
a NUL-terminated string, and a zero byte. `read_startup_packet` sorts the options by name, in the
place of those that were received, so that packets with the same options become the same bytes.

* `readStartupPacket_injective` — **the bytes determine all that is read from them**.
* `startup_inside_iff` — **only bytes of the packet are read and written if and only if the options
  end in it**; the packet then holds the same options, in another order.
* `sortPacket_of_perm` — **packets that differ in the order of their options become equal**.
-/

namespace PgBalancer.Child

open List

/-- The bytes of a packet. -/
abbrev Bytes := List UInt8

/-! ## Strings in a packet -/

/-- The string that starts here. -/
def stringAt (p : Bytes) : Bytes := p.takeWhile (· ≠ 0)

/-- `p + strlen(p) + 1` -/
def behind (p : Bytes) : Bytes := p.drop ((stringAt p).length + 1)

/-- A name and its value. -/
structure GucOption where
  name : Bytes
  value : Bytes
  deriving DecidableEq

variable {p s : Bytes}

theorem length_behind_lt (h : p ≠ []) : (behind p).length < p.length := by
  have hpos := length_pos_iff.2 h
  rw [behind, length_drop]
  omega

theorem length_behind_le (p : Bytes) : (behind p).length ≤ p.length := by
  rw [behind, length_drop]
  omega

/-- The loop `while (*p)` over names and values. -/
def optionsAt : Bytes → List GucOption
  | [] => []
  | c :: rest =>
    if c = 0 then []
    else
      ⟨stringAt (c :: rest), stringAt (behind (c :: rest))⟩ ::
        optionsAt (behind (behind (c :: rest)))
termination_by p => p.length
decreasing_by
  exact lt_of_le_of_lt (length_behind_le _) (length_behind_lt (cons_ne_nil _ _))

/-- The options as they are copied back. -/
def written (options : List GucOption) : Bytes :=
  options.flatMap fun o => o.name ++ 0 :: (o.value ++ [0])

/-! ## Sorting -/

/-- `opt_sort`: the names are compared byte by byte -/
def GucOption.NameLe (a b : GucOption) : Prop :=
  a.name.map UInt8.toNat ≤ b.name.map UInt8.toNat

/-- A sort function. -/
structure QSort where
  sort : List GucOption → List GucOption
  perm : ∀ options, (sort options).Perm options
  sorted : ∀ options, (sort options).Pairwise GucOption.NameLe

instance : DecidableRel GucOption.NameLe := fun _ _ => inferInstanceAs (Decidable (_ ≤ _))

/-- A sort function that can be evaluated. -/
def insertionQSort : QSort where
  sort := insertionSort GucOption.NameLe
  perm := perm_insertionSort _
  sorted options := by
    have : Std.Total GucOption.NameLe := ⟨fun a _ => le_total (a.name.map UInt8.toNat) _⟩
    have : IsTrans GucOption GucOption.NameLe :=
      ⟨fun a _ _ => le_trans (a := a.name.map UInt8.toNat)⟩
    exact pairwise_insertionSort _ options

/-- The options are sorted within the packet. -/
def sortPacket (q : QSort) (packet : Bytes) : Bytes :=
  let p := packet.drop 4
  let sorted := written (q.sort (optionsAt p))
  packet.take 4 ++ (sorted ++ p.drop sorted.length)

/-! ## Reading -/

/-- `StartupPacket`, with what was read from the options. -/
structure StartupPacket where
  startupPacket : Bytes
  major : ℕ
  minor : ℕ
  user : Bytes
  database : Bytes
  applicationName : Option Bytes
  deriving DecidableEq

/-- `MAX_STARTUP_PACKET_LENGTH` -/
def maxStartupPacketLength : ℕ := 10000

/-- The bytes of a literal. -/
def ascii (s : String) : Bytes := s.toList.map Char.toUInt8

/-- The names that are taken from the options. -/
structure Names where
  user : Option Bytes
  database : Option Bytes
  applicationName : Option Bytes

/-- One turn of the loop over the options. -/
def Names.read (names : Names) (o : GucOption) : Names :=
  if o.name = ascii "user" then { names with user := some o.value }
  else if o.name = ascii "database" then { names with database := some o.value }
  else if o.name = ascii "application_name" then { names with applicationName := some o.value }
  else names

/-- The major version. -/
def protoMajor (packet : Bytes) : ℕ := (packet.getD 0 0).toNat * 256 + (packet.getD 1 0).toNat

/-- The minor version. -/
def protoMinor (packet : Bytes) : ℕ := (packet.getD 2 0).toNat * 256 + (packet.getD 3 0).toNat

/-- What is read from a packet whose options are sorted. -/
def packetOf (packet : Bytes) : Option StartupPacket :=
  let names := (optionsAt (packet.drop 4)).foldl Names.read ⟨none, none, none⟩
  match names.user with
  | none => none
  | some user =>
    if user = [] then none
    else some
      { startupPacket := packet
        major := protoMajor packet
        minor := protoMinor packet
        user := user
        -- the database defaults to the user name
        database := match names.database with
          | none => user
          | some database => if database = [] then user else database
        applicationName := names.applicationName }

/-- `read_startup_packet`, for protocol 3: the packet without its length word. There is no result
if an error is raised. -/
def readStartupPacket (q : QSort) (packet : Bytes) : Option StartupPacket :=
  if packet.length < 4 ∨ packet.length > maxStartupPacketLength then none
  else if protoMajor packet ≠ 3 then none
  else packetOf (sortPacket q packet)

/-- The options that the server is given with a packet. -/
def StartupPacket.options (sp : StartupPacket) : List GucOption :=
  optionsAt (sp.startupPacket.drop 4)

/-! ## Well-formed packets -/

/-- A packet as a client builds it: the minor version, and options whose names are not empty. -/
structure ClientPacket where
  minorHigh : UInt8
  minorLow : UInt8
  options : List GucOption
  wellFormed : ∀ o ∈ options, o.name ≠ [] ∧ 0 ∉ o.name ∧ 0 ∉ o.value

/-- The version bytes of protocol 3. -/
def ClientPacket.version (c : ClientPacket) : Bytes := [0, 3, c.minorHigh, c.minorLow]

/-- The packet as it is sent. -/
def ClientPacket.bytes (c : ClientPacket) : Bytes := c.version ++ (written c.options ++ [0])

theorem stringAt_append (h : 0 ∉ s) (rest : Bytes) : stringAt (s ++ 0 :: rest) = s := by
  unfold stringAt
  rw [takeWhile_append_of_pos]
  · simp
  · intro b hb
    have hne : b ≠ 0 := fun h0 => h (h0 ▸ hb)
    simpa using hne

theorem behind_append (h : 0 ∉ s) (rest : Bytes) : behind (s ++ 0 :: rest) = rest := by
  rw [behind, stringAt_append h, drop_append]
  simp

/-- The loop as it looks at the bytes of the packet: there is no result if `*p` or `strlen` goes on
behind the last one. -/
def optionsInside : Bytes → Option (List GucOption)
  | [] => none
  | c :: rest =>
    if c = 0 then some []
    else if 0 ∈ c :: rest ∧ 0 ∈ behind (c :: rest) then
      (optionsInside (behind (behind (c :: rest)))).map
        (⟨stringAt (c :: rest), stringAt (behind (c :: rest))⟩ :: ·)
    else none
termination_by p => p.length
decreasing_by
  exact lt_of_le_of_lt (length_behind_le _) (length_behind_lt (cons_ne_nil _ _))

/-- Options as a client writes them. -/
abbrev WellFormed (options : List GucOption) : Prop :=
  ∀ o ∈ options, o.name ≠ [] ∧ 0 ∉ o.name ∧ 0 ∉ o.value

/-- The options stand here, followed by a zero byte. -/
def Terminated (options : List GucOption) (p : Bytes) : Prop :=
  WellFormed options ∧ ∃ rest, p = written options ++ 0 :: rest

variable {options : List GucOption}

/-- Options that are written one after the other and ended by a zero byte are read back. -/
theorem optionsInside_written (h : WellFormed options) (rest : Bytes) :
    optionsInside (written options ++ 0 :: rest) = some options := by
  induction options with
  | nil => simp [written, optionsInside]
  | cons o options ih =>
    obtain ⟨hname, hnul, hvalue⟩ := h o mem_cons_self
    have htext : written (o :: options) ++ 0 :: rest =
        o.name ++ 0 :: (o.value ++ 0 :: (written options ++ 0 :: rest)) := by
      simp [written]
    obtain ⟨c, name, hcons⟩ := exists_cons_of_ne_nil hname
    have hc : c ≠ 0 := by
      rintro rfl
      exact hnul (hcons ▸ mem_cons_self)
    have hstep : ∀ tail, 0 ∈ tail → optionsInside (o.name ++ 0 :: tail) =
        (optionsInside (behind tail)).map (⟨o.name, stringAt tail⟩ :: ·) := by
      intro tail htail
      have hb := behind_append hnul tail
      have hs := stringAt_append hnul tail
      rw [hcons, cons_append] at hb hs ⊢
      rw [optionsInside, if_neg hc, hb, hs, if_pos ⟨by simp, htail⟩]
    rw [htext, hstep _ (by simp), stringAt_append hvalue, behind_append hvalue, ih]
    · rfl
    · intro o' ho'
      exact h o' (mem_cons_of_mem _ ho')

/-- A walk that stays inside has met nothing else than written options and a zero byte. -/
theorem terminated_of_inside (h : optionsInside p = some options) :
    optionsAt p = options ∧ Terminated options p := by
  fun_induction optionsInside p generalizing options with
  | case1 => cases h
  | case2 rest =>
    cases h
    simp [optionsAt, Terminated, WellFormed, written]
  | case3 c rest hc hnul ih =>
    obtain ⟨tail, htail, rfl⟩ := Option.map_eq_some_iff.1 h
    obtain ⟨hat, hformed, rest', hrest⟩ := ih htail
    have hsplit : ∀ {p : Bytes}, 0 ∈ p → 0 ∉ stringAt p ∧ p = stringAt p ++ 0 :: behind p := by
      intro p hp
      obtain ⟨s, b, rfl, hs⟩ := eq_append_cons_of_mem hp
      rw [stringAt_append hs, behind_append hs]
      exact ⟨hs, rfl⟩
    obtain ⟨hn, hname⟩ := hsplit hnul.1
    obtain ⟨hv, hvalue⟩ := hsplit hnul.2
    refine ⟨by rw [optionsAt, if_neg hc, hat], forall_mem_cons.2 ⟨⟨?_, hn, hv⟩, hformed⟩, rest', ?_⟩
    · simp [stringAt, hc]
    · calc c :: rest = stringAt (c :: rest) ++ 0 :: (stringAt (behind (c :: rest)) ++
            0 :: behind (behind (c :: rest))) := by rw [← hvalue, ← hname]
        _ = written (⟨_, _⟩ :: tail) ++ 0 :: rest' := by simp [hrest, written]
  | case4 => cases h

theorem optionsAt_written (h : WellFormed options) (rest : Bytes) :
    optionsAt (written options ++ 0 :: rest) = options :=
  (terminated_of_inside (optionsInside_written h rest)).1

section Sorted

variable {q : QSort} {a b : List GucOption} {packet packet' rest : Bytes} {sp sp' : StartupPacket}
  {c c' : ClientPacket}

theorem length_written_perm (h : a.Perm b) :
    (written a).length = (written b).length := by
  unfold written
  rw [length_flatMap, length_flatMap]
  exact (h.map _).sum_eq

theorem sortPacket_written (h : WellFormed options)
    (hdrop : packet.drop 4 = written options ++ 0 :: rest) :
    sortPacket q packet = packet.take 4 ++ (written (q.sort options) ++ 0 :: rest) := by
  unfold sortPacket
  dsimp only
  rw [hdrop, optionsAt_written h, length_written_perm (q.perm options), drop_left]

theorem sortPacket_bytes (q : QSort) (c : ClientPacket) :
    sortPacket q c.bytes = c.version ++ (written (q.sort c.options) ++ [0]) :=
  sortPacket_written c.wellFormed rfl

theorem wellFormed_sort (q : QSort) (h : WellFormed options) : WellFormed (q.sort options) := by
  intro o ho
  exact h o ((q.perm options).mem_iff.1 ho)

theorem readStartupPacket_eq (h : readStartupPacket q packet = some sp) :
    packetOf (sortPacket q packet) = some sp ∧ packet.length ≤ maxStartupPacketLength := by
  unfold readStartupPacket at h
  split_ifs at h with hlen hmajor
  exact ⟨h, by omega⟩

theorem startupPacket_of_packetOf (h : packetOf packet = some sp) : sp.startupPacket = packet := by
  unfold packetOf at h
  dsimp only at h
  split at h
  · cases h
  · split_ifs at h
    rw [← Option.some.inj h]

/-- Two clients whose sorted packets are the same bytes have the same user, database and version. -/
theorem readStartupPacket_injective (h : readStartupPacket q packet = some sp)
    (h' : readStartupPacket q packet' = some sp') (hbytes : sp.startupPacket = sp'.startupPacket) :
    sp = sp' := by
  have hread := (readStartupPacket_eq h).1
  have hread' := (readStartupPacket_eq h').1
  rw [← startupPacket_of_packetOf hread] at hread
  rw [← startupPacket_of_packetOf hread', ← hbytes, hread] at hread'
  exact Option.some.inj hread'

theorem options_readStartupPacket (h : readStartupPacket q c.bytes = some sp) :
    sp.options.Perm c.options := by
  have hbytes := startupPacket_of_packetOf (readStartupPacket_eq h).1
  rw [sortPacket_bytes] at hbytes
  have hdrop : sp.startupPacket.drop 4 = written (q.sort c.options) ++ [0] := by
    rw [hbytes]
    rfl
  rw [StartupPacket.options, hdrop, optionsAt_written (wellFormed_sort q c.wellFormed)]
  exact q.perm c.options

theorem sort_eq_of_perm (h : a.Perm b) (hnodup : (a.map GucOption.name).Nodup) :
    q.sort a = q.sort b := by
  have hperm : (q.sort a).Perm (q.sort b) := ((q.perm a).trans h).trans (q.perm b).symm
  refine List.Perm.eq_of_pairwise ?_ (q.sorted a) (q.sorted b) hperm
  intro o o' ho ho' hle hle'
  have hname : o.name = o'.name :=
    map_injective_iff.2 (fun _ _ => UInt8.toNat_inj.1) (le_antisymm hle hle')
  exact inj_on_of_nodup_map hnodup ((q.perm a).mem_iff.1 ho)
    ((q.perm a).mem_iff.1 (hperm.mem_iff.2 ho')) hname

theorem sortPacket_of_perm (hversion : c.version = c'.version) (hperm : c.options.Perm c'.options)
    (hnodup : (c.options.map GucOption.name).Nodup) :
    sortPacket q c.bytes = sortPacket q c'.bytes := by
  rw [sortPacket_bytes, sortPacket_bytes, hversion, sort_eq_of_perm hperm hnodup]

/-! ## The positions that are used -/

/-- The three passes over the options of a packet, which is rewritten by the second. There is no
result if a position outside of the packet is read or written. -/
def rewriteInside (q : QSort) (packet : Bytes) : Option Bytes := do
  let options ← optionsInside (packet.drop 4)
  let sorted := written (q.sort options)
  guard (4 + sorted.length ≤ packet.length)
  let packet' := packet.take 4 ++ (sorted ++ (packet.drop 4).drop sorted.length)
  let _ ← optionsInside (packet'.drop 4)
  return packet'

theorem Terminated.optionsInside (h : Terminated options p) : optionsInside p = some options := by
  obtain ⟨hformed, rest, rfl⟩ := h
  exact optionsInside_written hformed rest

theorem Terminated.sort (h : Terminated options (packet.drop 4)) :
    Terminated (q.sort options) ((sortPacket q packet).drop 4) ∧
      4 + (written (q.sort options)).length ≤ packet.length := by
  obtain ⟨hformed, rest, hdrop⟩ := h
  have hlen := length_written_perm (q.perm options)
  have hsize := congrArg length hdrop
  rw [length_append, length_cons, length_drop] at hsize
  refine ⟨⟨wellFormed_sort q hformed, rest, ?_⟩, by omega⟩
  rw [sortPacket_written hformed hdrop]
  apply drop_left'
  rw [length_take]
  omega

/-- The passes over a packet whose options end in it. -/
theorem rewriteInside_eq (h : Terminated options (packet.drop 4)) :
    rewriteInside q packet = some (sortPacket q packet) := by
  obtain ⟨hsorted, hfits⟩ := h.sort (q := q)
  have hsort : packet.take 4 ++ (written (q.sort options) ++
      (packet.drop 4).drop (written (q.sort options)).length) = sortPacket q packet := by
    rw [sortPacket, (terminated_of_inside h.optionsInside).1]
  simp only [rewriteInside, h.optionsInside, Option.bind_eq_bind, Option.bind_some, guard,
    if_pos hfits, hsort, hsorted.optionsInside]
  rfl

/-- **All three passes stay inside of the packet if and only if its options end in it**; the packet
then becomes `sortPacket`, with the same options in another order. -/
theorem startup_inside_iff (q : QSort) (packet : Bytes) :
    ((rewriteInside q packet).isSome ↔ ∃ options, Terminated options (packet.drop 4)) ∧
      ∀ packet', rewriteInside q packet = some packet' → packet' = sortPacket q packet ∧
        (optionsAt (packet'.drop 4)).Perm (optionsAt (packet.drop 4)) := by
  have hinside : ∀ packet', rewriteInside q packet = some packet' →
      ∃ options, Terminated options (packet.drop 4) := by
    intro packet' h
    obtain ⟨options, hoptions, -⟩ := Option.bind_eq_some_iff.1 h
    exact ⟨options, (terminated_of_inside hoptions).2⟩
  refine ⟨⟨fun h => ?_, ?_⟩, ?_⟩
  · obtain ⟨packet', h⟩ := Option.isSome_iff_exists.1 h
    exact hinside packet' h
  · rintro ⟨options, h⟩
    rw [rewriteInside_eq h]
    rfl
  · intro packet' h
    obtain ⟨options, hoptions⟩ := hinside packet' h
    rw [rewriteInside_eq hoptions] at h
    cases h
    rw [(terminated_of_inside hoptions.optionsInside).1,
      (terminated_of_inside hoptions.sort.1.optionsInside).1]
    exact ⟨rfl, q.perm options⟩

/-- A packet in which the zero byte behind the options is missing. -/
def unterminated : Bytes := [0, 3, 0, 0, 117, 115, 101, 114, 0, 97, 0]

/-- It is read outside, and accepted if a zero byte happens to stand there. -/
theorem unterminated_read_outside : rewriteInside insertionQSort unterminated = none ∧
    (readStartupPacket insertionQSort unterminated).isSome = true := by
  constructor <;> decide +kernel

end Sorted

end PgBalancer.Child
