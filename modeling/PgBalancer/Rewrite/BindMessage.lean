import PgBalancer.Lib.NetworkOrder
import PgBalancer.Lib.Transcribe

/-!
# Adding timestamps to a Bind message

When the timestamps of a statement have been replaced by parameters, each Bind message for it gets
these parameters as well.  `bind_rewrite_timestamp` writes the new message to a buffer it allocates,
section by section, and computes its length on the way.

* `bind_rewritten_iff` — **the rewritten message is the original one with the timestamps added
  exactly if it has at most 32767 parameters and fits into memory**: the numbers of parameters and
  of format codes are signed 16-bit numbers in the code.  It is about messages with at most 32767
  format codes; the codes of others are taken for parameters.
-/

namespace PgBalancer.Rewrite

open CBuffer NetworkOrder Transcribe List

open List (replicate range)

/-! ## Bind messages -/

/-- A format code: 0 is text, 1 is binary. -/
abbrev FormatCode := Fin 65536

/-- A Bind message that is well formed. -/
structure BindMessage where
  portal : List UInt8
  stmt : List UInt8
  formats : List FormatCode
  /-- `none` is NULL -/
  params : List (Option (List UInt8))
  resultFormats : List FormatCode
  no_nul_portal : 0 ∉ portal
  no_nul_stmt : 0 ∉ stmt
  /-- no code, one for all parameters, or one for each -/
  formats_count : formats.length = 0 ∨ formats.length = 1 ∨ formats.length = params.length
  params_count : params.length ≤ 65535
  params_small : ∀ d, some d ∈ params → d.length < 2 ^ 31
  results_count : resultFormats.length ≤ 65535

/-- A 16-bit number in network byte order. -/
def word (n : Nat) : List UInt8 := beBytes 2 n

/-- Format codes as they are sent. -/
def codeBytes (codes : List FormatCode) : List UInt8 := codes.flatMap fun code => word code.val

/-- A parameter: its length, −1 for NULL, and its value. -/
def paramBytes : Option (List UInt8) → List UInt8
  | none => beBytes 4 (2 ^ 32 - 1)
  | some d => beBytes 4 d.length ++ d

namespace BindMessage

/-- The message without its kind and length. -/
def bytes (m : BindMessage) : List UInt8 :=
  m.portal ++ [0] ++ (m.stmt ++ [0]) ++ (word m.formats.length ++ codeBytes m.formats) ++
    (word m.params.length ++ m.params.flatMap paramBytes) ++
    (word m.resultFormats.length ++ codeBytes m.resultFormats)

end BindMessage

/-- The length of a packet, which counts itself, is an `int`. -/
structure BindPacket extends BindMessage where
  length_lt : toBindMessage.bytes.length + 4 < 2 ^ 31

/-- The format of each of `n` parameters. -/
def effectiveFormats (n : Nat) : List FormatCode → List FormatCode
  | [] => List.replicate n 0
  | [code] => List.replicate n code
  | codes => codes

/-! ## The code -/

/-- The value of an `int16` variable. -/
def int16 (x : Int) : Int := x.bmod (2 ^ 16)

/-- `htons` of a number that is converted to 16 bits. -/
def htons (x : Int) : List UInt8 := word (x % 65536).toNat

/-- `ntohs` -/
def ntohs (tmp2 : List UInt8) : Nat := ofBe tmp2

/-- `ntohl`, as an `int`. -/
def ntohl (tmp4 : List UInt8) : Int := int32 (ofBe tmp4)

/-- `strlcpy` of a row to the 64 bytes of `timestamp`. -/
def timestampOf (row : List UInt8) : List UInt8 := (row.takeWhile (· ≠ 0)).take 63

/-- `get_current_timestamp`, from the rows `SELECT pg_catalog.now()` has returned. -/
def getCurrentTimestamp : List (List UInt8) → Option (List UInt8)
  | [row] => some (timestampOf row)
  | _ => none

/-- `palloc` of a size that is converted from `int` to `size_t`; the memory is not initialised. -/
def palloc (fresh : Nat → UInt8) (size : Int) : Except Fault (List UInt8) :=
  if 0 ≤ size ∧ size ≤ 0x3fffffff then .ok ((List.range size.toNat).map fresh)
  else .error .badAlloc

/-- `strlen(copy_from)` -/
def strlen (origMsg : List UInt8) (c : Cursor UInt8) : Except Fault Nat :=
  let text := origMsg.drop c.copyFrom
  let n := (text.takeWhile (· ≠ 0)).length
  if n < text.length then .ok n else .error .overread

/-- Sections 1 and 2: a name. -/
def copyName (origMsg : List UInt8) (c : Cursor UInt8) : Except Fault (Cursor UInt8) := do
  let n ← strlen origMsg c
  transfer origMsg c (n + 1)

/-- `num_formats_new`, and `*len` with the new format codes. -/
def newFormatCount (numFormats : Int) (numTsparams numOrgParams : Nat) (len : Int) : Int × Int :=
  if numFormats = 0 then (0, len)
  else (int16 (numOrgParams + numTsparams),
    int32 ((if numFormats = 1 then int32 (len + (numOrgParams - 1) * 2) else len) +
      numTsparams * 2))

/-- Section 3.2: the format codes. -/
def copyFormats (origMsg : List UInt8) (numFormats : Int) (numTsparams numOrgParams : Nat)
    (c : Cursor UInt8) : Except Fault (Cursor UInt8) :=
  if 1 ≤ numFormats then do
    let c ←
      if numFormats = 1 then do
        let orgFormatCode ← fetch origMsg c 0 2
        putCopies numOrgParams orgFormatCode (skip c 2)
      else transfer origMsg c (numFormats * 2)
    put c (List.replicate (numTsparams * 2) 0)
  else return c

/-- Section 3, once the number of format codes has been read. -/
def writeFormats (origMsg : List UInt8) (numTsparams numOrgParams : Nat) (len : Int)
    (c : Cursor UInt8) (numFormats : Int) : Except Fault (Cursor UInt8 × Int) := do
  let (numFormatsNew, len) := newFormatCount numFormats numTsparams numOrgParams len
  let c ← put c (htons numFormatsNew)
  let c ← copyFormats origMsg numFormats numTsparams numOrgParams (skip c 2)
  return (c, len)

/-- Section 3. -/
def copyFormatSection (origMsg : List UInt8) (numTsparams numOrgParams : Nat) (len : Int)
    (c : Cursor UInt8) : Except Fault (Cursor UInt8 × Int) := do
  let tmp2 ← fetch origMsg c 0 2
  writeFormats origMsg numTsparams numOrgParams len c (int16 (ntohs tmp2))

/-- The loop over the original parameters: the number of bytes they take. -/
def paramsLength (origMsg : List UInt8) (c : Cursor UInt8) : Nat → Int → Except Fault Int
  | 0, copyLen => .ok copyLen
  | i + 1, copyLen => do
    let tmp4 ← fetch origMsg c copyLen 4
    let tmp4 := ntohl tmp4
    let copyLen := int32 (copyLen + 4)
    paramsLength origMsg c i (if 0 < tmp4 then int32 (copyLen + tmp4) else copyLen)

/-- Section 4, the original parameters. -/
def copyParamSection (origMsg : List UInt8) (numTsparams : Nat) (c : Cursor UInt8) :
    Except Fault (Cursor UInt8) := do
  let tmp2 ← fetch origMsg c 0 2
  let numParams := int16 (ntohs tmp2)
  let c ← put c (htons (numParams + numTsparams))
  let c := skip c 2
  let copyLen ← paramsLength origMsg c numParams.toNat 0
  transfer origMsg c copyLen

/-- Section 4, the timestamps. -/
def putTimestamps (ts : List UInt8) : Nat → Cursor UInt8 → Except Fault (Cursor UInt8)
  | 0, c => .ok c
  | i + 1, c => do
    let c ← put c (beBytes 4 ts.length)
    let c ← put c ts
    putTimestamps ts i c

/-- Section 5. -/
def copyResultSection (origMsg : List UInt8) (c : Cursor UInt8) : Except Fault (Cursor UInt8) := do
  let tmp2 ← fetch origMsg c 0 2
  transfer origMsg c (2 + 2 * ntohs tmp2)

/-- The sections one after the other, with the `*len` that counts the timestamps already. -/
def copySections (origMsg ts : List UInt8) (numTsparams numOriginalParams : Nat) (len : Int)
    (newMsg : List UInt8) : Except Fault (Option (List UInt8 × Int)) := do
  let c ← copyName origMsg ⟨newMsg, 0, 0⟩
  let c ← copyName origMsg c
  let (c, len) ← copyFormatSection origMsg numTsparams numOriginalParams len c
  let c ← copyParamSection origMsg numTsparams c
  let c ← putTimestamps ts numTsparams c
  let c ← copyResultSection origMsg c
  return some (c.target, len)

/-- `bind_rewrite_timestamp`: the buffer and `*len`, or NULL. -/
def bindRewriteTimestamp (fresh : Nat → UInt8) (rows : List (List UInt8))
    (numTsparams numOriginalParams : Nat) (origMsg : List UInt8) (len : Int) :
    Except Fault (Option (List UInt8 × Int)) :=
  match getCurrentTimestamp rows with
  | none => .ok none
  | some ts => do
    let len := int32 (len + (ts.length + 4) * numTsparams)
    let newMsg ← palloc fresh (len + 2 * (numTsparams + numOriginalParams))
    copySections origMsg ts numTsparams numOriginalParams len newMsg

/-! ## Words -/

variable {n k : Nat}

@[simp] theorem length_word : (word n).length = 2 := length_beBytes 2 n

theorem ntohs_word (h : n ≤ 65535) : ntohs (word n) = n :=
  ofBe_beBytes_of_lt (by omega)

theorem int16_of_small (h : n ≤ 32767) : int16 n = n :=
  Int.bmod_eq_of_le (by omega) (by omega)

theorem int16_neg (hlo : 32767 < n) (hhi : n ≤ 65535) : int16 n = n - 65536 := by
  have hmod : (n : Int) % ((2 ^ 16 : Nat) : Int) = n := Int.emod_eq_of_lt (by omega) (by omega)
  rw [int16, Int.bmod_def, hmod, if_neg (by omega)]
  rfl

theorem htons_int16_add (h : n + k ≤ 65535) : htons (int16 n + k) = word (n + k) := by
  have hmod : (int16 n + k) % 65536 = (n + k : Nat) := by
    by_cases hn : n ≤ 32767
    · rw [int16_of_small hn]
      omega
    · rw [int16_neg (by omega) (by omega)]
      omega
  rw [htons, hmod, Int.toNat_natCast]

theorem htons_int16 (h : n ≤ 65535) : htons (int16 n) = word n := by
  simpa using htons_int16_add (k := 0) h

@[simp] theorem length_codeBytes (codes : List FormatCode) :
    (codeBytes codes).length = 2 * codes.length := by
  induction codes with
  | nil => rfl
  | cons code codes ih =>
    simp only [codeBytes, flatMap_cons, length_append, length_word,
      length_cons] at ih ⊢
    omega

theorem codeBytes_append (codes codes' : List FormatCode) :
    codeBytes (codes ++ codes') = codeBytes codes ++ codeBytes codes' :=
  flatMap_append

theorem codeBytes_replicate (code : FormatCode) :
    codeBytes (replicate n code) = (replicate n (word code.val)).flatten := by
  rw [codeBytes, flatMap_replicate]

theorem codeBytes_text : codeBytes (replicate k 0) = replicate (k * 2) 0 := by
  rw [codeBytes_replicate]
  induction k with
  | zero => rfl
  | succ k ih =>
    rw [replicate_succ, flatten_cons, ih, Nat.succ_mul, Nat.add_comm (k * 2) 2,
      replicate_add]
    rfl

/-! ## The sections -/

section Sections

variable {origMsg fresh rest written name before ts : List UInt8} {c : Cursor UInt8} {k n f : Nat}
  {codes : List FormatCode} {len : Int} {params : List (Option (List UInt8))}

theorem copyName_progress (h : Progress origMsg fresh (name ++ [0] ++ rest) written c)
    (hname : 0 ∉ name) (hroom : written.length + (name.length + 1) ≤ fresh.length) :
    Returns (copyName origMsg c) (Progress origMsg fresh rest (written ++ (name ++ [0])))
      NoFault := by
  have hlen : strlen origMsg c = .ok name.length := by
    have htake : (name ++ [0] ++ rest).takeWhile (· ≠ 0) = name := by
      rw [append_assoc, takeWhile_append_of_pos]
      · simp
      · intro b hb
        simpa using fun hzero : b = 0 => hname (hzero ▸ hb)
    simp only [strlen, h.rest_eq, htake]
    simp
  unfold copyName
  rw [hlen]
  exact transfer_progress h (by simp) (by simpa using hroom)

/-- The format codes of the rewritten message. -/
def newFormats (n k : Nat) : List FormatCode → List FormatCode
  | [] => []
  | codes => effectiveFormats n codes ++ List.replicate k 0

theorem length_effectiveFormats (h : codes.length = 0 ∨ codes.length = 1 ∨ codes.length = n) :
    (effectiveFormats n codes).length = n := by
  match codes, h with
  | [], _ => simp [effectiveFormats]
  | [code], _ => simp [effectiveFormats]
  | code :: code' :: codes, h => simpa [effectiveFormats] using h

theorem length_newFormats (h : codes.length = 0 ∨ codes.length = 1 ∨ codes.length = n)
    (hne : codes ≠ []) : (newFormats n k codes).length = n + k := by
  match codes, hne with
  | code :: codes, _ =>
    rw [newFormats, length_append, length_effectiveFormats h, length_replicate]
    exact cons_ne_nil _ _

theorem newFormatCount_of_ne_zero (hpos : 0 < f) (hf : f = 1 ∨ f = n) (hlo : 2 ≤ len)
    (hhi : len + 2 * (n + k) < 2 ^ 31) :
    newFormatCount f k n len = (int16 (n + k), len + 2 * (n + k - f)) := by
  unfold newFormatCount
  rw [if_neg (by omega)]
  by_cases hone : f = 1
  · subst hone
    have hcopies : int32 (len + (n - 1) * 2) = len + (n - 1) * 2 :=
      int32_eq_self (by omega) (by omega)
    rw [Nat.cast_one, if_pos rfl, hcopies, int32_eq_self (by omega) (by omega)]
    congr 1
    omega
  · have hn : f = n := hf.resolve_left hone
    rw [if_neg (by omega), int32_eq_self (by omega) (by omega)]
    congr 1
    omega

/-- **The format codes.**  Where there was one for all parameters, each gets its own. -/
theorem copyFormats_progress (h : Progress origMsg fresh (codeBytes codes ++ rest) written c)
    (hcodes : codes.length = 0 ∨ codes.length = 1 ∨ codes.length = n)
    (hroom : written.length + (codeBytes (newFormats n k codes)).length ≤ fresh.length) :
    Returns (copyFormats origMsg codes.length k n c)
      (Progress origMsg fresh rest (written ++ codeBytes (newFormats n k codes))) NoFault := by
  match codes, hcodes, h, hroom with
  | [], _, h, _ => simpa [copyFormats, newFormats, codeBytes] using h
  | [code], _, h, hroom =>
    have hfield : codeBytes [code] = word code.val := by simp [codeBytes]
    have hnew : codeBytes (newFormats n k [code]) =
        (replicate n (word code.val)).flatten ++ replicate (k * 2) 0 := by
      rw [newFormats, codeBytes_append, codeBytes_text, effectiveFormats, codeBytes_replicate]
      exact cons_ne_nil _ _
    rw [hfield] at h
    rw [hnew] at hroom ⊢
    simp only [length_append, length_replicate, length_flatten, map_replicate,
      sum_replicate, length_word, smul_eq_mul] at hroom
    simp only [copyFormats, length_singleton, Nat.cast_one, le_refl, if_true,
      fetch_next h (m := 2) rfl]
    rw [← append_assoc]
    refine (putCopies_progress (skip_progress h rfl) ?_).bind fun c' hc' => put_progress hc' ?_
    · rw [length_word]
      omega
    · simp only [length_append, length_replicate, length_flatten, map_replicate,
        sum_replicate, length_word, smul_eq_mul]
      omega
  | code :: code' :: codes, _, h, hroom =>
    have hnew : codeBytes (newFormats n k (code :: code' :: codes)) =
        codeBytes (code :: code' :: codes) ++ replicate (k * 2) 0 := by
      rw [newFormats, codeBytes_append, codeBytes_text, effectiveFormats]
      all_goals simp
    rw [hnew] at hroom ⊢
    simp only [length_append, length_replicate] at hroom
    have hmany : ¬ ((code :: code' :: codes).length : Int) = 1 := by simp; omega
    unfold copyFormats
    rw [if_pos (by simp; omega), if_neg hmany, ← append_assoc]
    refine (transfer_progress h ?_ ?_).bind fun c' hc' => put_progress hc' ?_
    · rw [length_codeBytes]
      omega
    · omega
    · rw [length_append, length_replicate]
      omega

theorem newFormatCount_eq (hcodes : codes.length = 0 ∨ codes.length = 1 ∨ codes.length = n)
    (hlo : 2 ≤ len) (hhi : len + 2 * (n + k) < 2 ^ 31) : newFormatCount codes.length k n len =
      (int16 (newFormats n k codes).length,
        len + 2 * ((newFormats n k codes).length - codes.length)) := by
  by_cases hnil : codes = []
  · subst hnil
    have hzero : int16 (0 : Nat) = 0 := rfl
    simp only [newFormatCount, newFormats, length_nil, hzero]
    simp
  · have hpos : 0 < codes.length := length_pos_iff.2 hnil
    rw [newFormatCount_of_ne_zero hpos (by omega) hlo hhi, length_newFormats hcodes hnil,
      Nat.cast_add]

theorem length_newFormats_le (hcodes : codes.length = 0 ∨ codes.length = 1 ∨ codes.length = n) :
    (newFormats n k codes).length ≤ n + k := by
  by_cases hnil : codes = []
  · subst hnil
    exact Nat.zero_le _
  · rw [length_newFormats hcodes hnil]

/-- The format codes are copied, with those of the timestamps. -/
theorem copyFormatSection_progress
    (h : Progress origMsg fresh (word codes.length ++ codeBytes codes ++ rest) written c)
    (hcodes : codes.length = 0 ∨ codes.length = 1 ∨ codes.length = n)
    (hsmall : codes.length ≤ 32767) (hk : n + k ≤ 65535) (hlo : 2 ≤ len)
    (hhi : len + 2 * (n + k) < 2 ^ 31)
    (hroom : written.length + (2 + (codeBytes (newFormats n k codes)).length) ≤ fresh.length) :
    Returns (copyFormatSection origMsg k n len c)
      (fun r => Progress origMsg fresh rest (written ++ (word (newFormats n k codes).length ++
          codeBytes (newFormats n k codes))) r.1 ∧
        r.2 = len + 2 * ((newFormats n k codes).length - codes.length)) NoFault := by
  rw [append_assoc] at h
  have hcount : int16 (ntohs (word codes.length)) = codes.length := by
    rw [ntohs_word (by omega), int16_of_small hsmall]
  unfold copyFormatSection
  rw [fetch_next h (m := 2) (by simp), ok_bind, hcount, writeFormats,
    newFormatCount_eq hcodes hlo hhi]
  simp only [htons_int16 ((length_newFormats_le hcodes).trans hk), ← append_assoc]
  refine (put_progress h ?_).bind fun c₁ hc₁ => ?_
  · rw [length_word]
    omega
  refine (copyFormats_progress (skip_progress hc₁ (by simp)) hcodes ?_).bind fun c₂ hc₂ => ?_
  · rw [length_append, length_word]
    omega
  exact ⟨hc₂, rfl⟩

theorem ntohl_paramBytes (p : Option (List UInt8)) (hp : ∀ d, p = some d → d.length < 2 ^ 31) :
    ∃ tmp4 value, paramBytes p = tmp4 ++ value ∧ tmp4.length = 4 ∧
      (if 0 < ntohl tmp4 then ntohl tmp4 else 0) = value.length := by
  cases p with
  | none => exact ⟨beBytes 4 (2 ^ 32 - 1), [], by simp [paramBytes], by simp, by decide⟩
  | some d =>
    have hd := hp d rfl
    have hvalue : ntohl (beBytes 4 d.length) = d.length := by
      rw [ntohl, ofBe_beBytes_of_lt (by omega), int32_eq_self (by omega) (by omega)]
    refine ⟨beBytes 4 d.length, d, rfl, by simp, ?_⟩
    rw [hvalue]
    split_ifs <;> omega

/-- **The loop over the parameters** finds the end of the last one. -/
theorem paramsLength_eq
    (h : Progress origMsg fresh (before ++ (params.flatMap paramBytes ++ rest)) written c)
    (hsmall : ∀ d, some d ∈ params → d.length < 2 ^ 31)
    (hlen : (before ++ params.flatMap paramBytes).length < 2 ^ 31) :
    paramsLength origMsg c params.length before.length =
      .ok ((before ++ params.flatMap paramBytes).length : Int) := by
  induction params generalizing before with
  | nil => simp [paramsLength]
  | cons p params ih =>
    obtain ⟨tmp4, value, hp, htmp4, hvalue⟩ :=
      ntohl_paramBytes p fun d hd => hsmall d (by simp [hd])
    simp only [flatMap_cons, hp, append_assoc] at h hlen ⊢
    have hstep : int32 (before.length + 4) = before.length + 4 := by
      apply int32_eq_self
      · omega
      · simp only [length_append] at hlen
        omega
    have hturn : (if 0 < ntohl tmp4 then int32 (before.length + 4 + ntohl tmp4)
        else (before.length + 4 : Int)) = (before ++ (tmp4 ++ value)).length := by
      simp only [length_append] at hlen ⊢
      split_ifs at hvalue ⊢ with hpos
      · rw [int32_eq_self (by omega) (by omega)]
        omega
      · omega
    have hnext : Progress origMsg fresh
        ((before ++ (tmp4 ++ value)) ++ (params.flatMap paramBytes ++ rest)) written c := by
      simpa using h
    have hrest := ih hnext (fun d hd => hsmall d (by simp [hd])) (by simpa using hlen)
    simp only [length_cons, paramsLength, fetch_ahead h rfl (m := 4) (by simp [htmp4]), hstep]
    change paramsLength origMsg c params.length _ = _
    rw [hturn, hrest]
    simp

/-- The parameters are copied. -/
theorem copyParamSection_progress
    (h : Progress origMsg fresh (word params.length ++ params.flatMap paramBytes ++ rest) written c)
    (hn : params.length ≤ 32767) (hk : params.length + k ≤ 65535)
    (hsmall : ∀ d, some d ∈ params → d.length < 2 ^ 31)
    (hlen : (params.flatMap paramBytes).length < 2 ^ 31)
    (hroom : written.length + (2 + (params.flatMap paramBytes).length) ≤ fresh.length) :
    Returns (copyParamSection origMsg k c) (Progress origMsg fresh rest
        (written ++ (word (params.length + k) ++ params.flatMap paramBytes))) NoFault := by
  rw [append_assoc] at h
  have hcount : (int16 params.length).toNat = params.length := by
    rw [int16_of_small hn, Int.toNat_natCast]
  simp only [copyParamSection, fetch_next h (m := 2) (by simp), ok_bind,
    ntohs_word (show params.length ≤ 65535 by omega), htons_int16_add hk, hcount,
    ← append_assoc]
  refine (put_progress h ?_).bind fun c₁ hc₁ => ?_
  · rw [length_word]
    omega
  have hskip : Progress origMsg fresh ([] ++ (params.flatMap paramBytes ++ rest))
      (written ++ word (params.length + k)) (skip c₁ 2) := skip_progress hc₁ (by simp)
  have hloop := paramsLength_eq hskip hsmall hlen
  simp only [length_nil, Nat.cast_zero, nil_append] at hloop
  rw [hloop]
  refine transfer_progress hskip rfl ?_
  rw [length_append, length_word]
  omega

theorem putTimestamps_progress (h : Progress origMsg fresh rest written c)
    (hroom : written.length + ((replicate k (some ts)).flatMap paramBytes).length ≤
      fresh.length) : Returns (putTimestamps ts k c) (Progress origMsg fresh rest
      (written ++ (replicate k (some ts)).flatMap paramBytes)) NoFault := by
  induction k generalizing written c with
  | zero => simpa [putTimestamps] using h
  | succ k ih =>
    simp only [replicate_succ, flatMap_cons, paramBytes, length_append,
      length_beBytes] at hroom ⊢
    refine (put_progress h ?_).bind fun c₁ hc₁ => (put_progress hc₁ ?_).bind fun c₂ hc₂ => ?_
    · rw [length_beBytes]
      omega
    · rw [length_append, length_beBytes]
      omega
    · have hrest := ih hc₂ (by simp only [length_append, length_beBytes]; omega)
      simpa only [append_assoc] using hrest

/-- The area that is as long as its first word says is copied. -/
theorem copyResultSection_progress {area : List UInt8}
    (h : Progress origMsg fresh (area ++ rest) written c)
    (harea : area.length = 2 + 2 * ntohs (area.take 2))
    (hroom : written.length + area.length ≤ fresh.length) :
    Returns (copyResultSection origMsg c) (Progress origMsg fresh rest (written ++ area))
      NoFault := by
  have hsplit : Progress origMsg fresh (area.take 2 ++ (area.drop 2 ++ rest)) written c := by
    rwa [← append_assoc, take_append_drop]
  have hfetch : fetch origMsg c 0 2 = .ok (area.take 2) :=
    fetch_next hsplit (by rw [length_take]; omega)
  simp only [copyResultSection, hfetch, ok_bind]
  exact transfer_progress h (by omega) hroom

end Sections

/-! ## The whole message -/

variable {codes : List FormatCode}

theorem effectiveFormats_of_length (h : codes.length = n) : effectiveFormats n codes = codes := by
  match codes, h with
  | [], h => simp [← h, effectiveFormats]
  | [code], h => simp [← h, effectiveFormats]
  | _ :: _ :: _, _ => rfl

theorem effectiveFormats_newFormats (h : codes.length = 0 ∨ codes.length = 1 ∨ codes.length = n) :
    effectiveFormats (n + k) (newFormats n k codes) =
      effectiveFormats n codes ++ replicate k 0 := by
  cases codes with
  | nil => exact replicate_add n k 0
  | cons code codes =>
    rw [effectiveFormats_of_length (length_newFormats h (by simp)), newFormats]
    exact cons_ne_nil _ _

theorem length_timestampParams (ts : List UInt8) :
    ((replicate k (some ts)).flatMap paramBytes).length = (ts.length + 4) * k := by
  simp [flatMap_replicate, paramBytes, Nat.mul_comm, Nat.add_comm]

namespace BindMessage

theorem length_bytes (m : BindMessage) : m.bytes.length = m.portal.length + m.stmt.length +
    2 * m.formats.length + (m.params.flatMap paramBytes).length +
      2 * m.resultFormats.length + 8 := by
  simp only [bytes, length_append, length_word, length_codeBytes, length_singleton]
  omega

/-- The message with `k` timestamps. -/
def withTimestamps (m : BindMessage) (ts : List UInt8) (k : Nat)
    (hk : m.params.length + k ≤ 65535) (hts : ts.length < 2 ^ 31) : BindMessage :=
  { m with
    formats := newFormats m.params.length k m.formats
    params := m.params ++ List.replicate k (some ts)
    formats_count := by
      by_cases hnil : m.formats = []
      · simp [hnil, newFormats]
      · right; right
        simp [length_newFormats m.formats_count hnil]
    params_count := by simpa using hk
    params_small := by
      intro d hd
      rcases mem_append.1 hd with hd | hd
      · exact m.params_small d hd
      · obtain ⟨-, hd⟩ := mem_replicate.1 hd
        rwa [Option.some.inj hd] }

theorem length_withTimestamps {m : BindMessage} {ts : List UInt8} {k : Nat}
    (hk : m.params.length + k ≤ 65535) (hts : ts.length < 2 ^ 31) :
    ((m.withTimestamps ts k hk hts).bytes.length : Int) = m.bytes.length + (ts.length + 4) * k +
      2 * ((newFormats m.params.length k m.formats).length - m.formats.length) := by
  rw [length_bytes, length_bytes]
  simp only [withTimestamps, flatMap_append, length_append, length_timestampParams]
  push_cast
  ring

end BindMessage

/-- The memory that is asked for. -/
def allocated (ts : List UInt8) (k : Nat) (m : BindMessage) : Nat :=
  m.bytes.length + (ts.length + 4) * k + 2 * (k + m.params.length)

/-- What `bind_rewrite_timestamp` returns is a Bind message with the same portal, statement and
result formats, whose parameters are the original ones with the same formats and `k` timestamps as
text. -/
def Rewritten (ts : List UInt8) (k : Nat) (m : BindMessage)
    (r : Except Fault (Option (List UInt8 × Int))) : Prop :=
  ∃ (buf : List UInt8) (len : Nat) (m' : BindPacket), r = .ok (some (buf, (len : Int))) ∧
    len ≤ buf.length ∧ buf.take len = m'.bytes ∧
    m'.portal = m.portal ∧ m'.stmt = m.stmt ∧ m'.resultFormats = m.resultFormats ∧
    m'.params = m.params ++ List.replicate k (some ts) ∧
    effectiveFormats m'.params.length m'.formats =
      effectiveFormats m.params.length m.formats ++ List.replicate k 0

section Whole

variable {m : BindMessage} {k size n : Nat} {fresh origMsg rest written : List UInt8}
  {ts : List UInt8} {len : Int} {c : Cursor UInt8}

/-- **The sections together**, if the parameters are copied as `params`. -/
theorem copySections_of_params {portal stmt area params bytes : List UInt8}
    (codes : List FormatCode) (results tail : List UInt8) (horig : portal ++ [0] ++ (stmt ++ [0] ++
      (word codes.length ++ codeBytes codes ++ area)) = origMsg)
    (hbytes : portal ++ [0] ++ (stmt ++ [0]) ++ (word (newFormats n k codes).length ++
      codeBytes (newFormats n k codes)) ++ params ++ (replicate k (some ts)).flatMap paramBytes ++
      results = bytes) (hportal : 0 ∉ portal) (hstmt : 0 ∉ stmt)
    (hcodes : codes.length = 0 ∨ codes.length = 1 ∨ codes.length = n)
    (hsmall : codes.length ≤ 32767) (hk : n + k ≤ 65535) (hlo : 2 ≤ len)
    (hhi : len + 2 * (n + k) < 2 ^ 31)
    (hresults : results.length = 2 + 2 * ntohs (results.take 2))
    (hroom : bytes.length ≤ fresh.length)
    (hparams : ∀ {written c}, Progress origMsg fresh area written c →
      written.length + params.length ≤ fresh.length → Returns (copyParamSection origMsg k c)
        (Progress origMsg fresh (results ++ tail) (written ++ params)) NoFault) :
    Returns (copySections origMsg ts k n len fresh)
      (fun r => r = some (bytes ++ fresh.drop bytes.length,
        len + 2 * ((newFormats n k codes).length - codes.length))) NoFault := by
  have hstart := progress_start origMsg fresh
  nth_rewrite 2 [← horig] at hstart
  rw [← hbytes] at hroom ⊢
  simp [-length_flatMap] at hroom
  unfold copySections
  refine (copyName_progress hstart hportal ?_).bind fun c₁ h₁ => ?_
  · simp
    omega
  refine (copyName_progress h₁ hstmt ?_).bind fun c₂ h₂ => ?_
  · simp
    omega
  refine (copyFormatSection_progress h₂ hcodes hsmall hk hlo hhi ?_).bind fun r h₃ => ?_
  · simp
    omega
  obtain ⟨c₃, len₃⟩ := r
  obtain ⟨h₃, rfl⟩ := h₃
  refine (hparams h₃ ?_).bind fun c₄ h₄ => ?_
  · simp
    omega
  refine (putTimestamps_progress h₄ ?_).bind fun c₅ h₅ => ?_
  · simp [-length_flatMap]
    omega
  refine (copyResultSection_progress h₅ hresults ?_).bind fun c₆ h₆ => ?_
  · simp [-length_flatMap]
    omega
  rw [nil_append] at h₆
  exact congrArg (fun buf => some (buf, _)) h₆.target_eq

/-- They are the message with the timestamps. -/
theorem copySections_returns (hk : m.params.length + k ≤ 65535) (hts : ts.length < 2 ^ 31)
    (hn : m.params.length ≤ 32767) (hlen : len = m.bytes.length + (ts.length + 4) * k)
    (hfresh : fresh.length = allocated ts k m) (hfits : allocated ts k m ≤ 0x3fffffff) :
    Returns (copySections m.bytes ts k m.params.length len fresh)
      (fun r => (m.withTimestamps ts k hk hts).bytes.length ≤ fresh.length ∧
        ∃ rest, r = some ((m.withTimestamps ts k hk hts).bytes ++ rest,
          ((m.withTimestamps ts k hk hts).bytes.length : Int))) NoFault := by
  have hnew := length_newFormats_le (k := k) m.formats_count
  have hbytes := m.length_bytes
  have hwhole := BindMessage.length_withTimestamps hk hts
  have hmul : ((ts.length + 4) * k : Nat) = ((ts.length : Int) + 4) * k := by push_cast; rfl
  have hcodes := m.formats_count
  unfold allocated at hfresh hfits
  have hroom : (m.withTimestamps ts k hk hts).bytes.length ≤ fresh.length := by omega
  refine (copySections_of_params m.formats
    (word m.resultFormats.length ++ codeBytes m.resultFormats) [] (by simp [BindMessage.bytes])
    (by simp [BindMessage.bytes, BindMessage.withTimestamps]) m.no_nul_portal m.no_nul_stmt hcodes
    (by omega) hk (by omega) (by omega) (by simp [ntohs_word m.results_count]) hroom fun h hroom =>
      copyParamSection_progress h hn hk m.params_small (by omega) ?_).mono ?_ fun _ h => h
  · simpa [-length_flatMap] using hroom
  · rintro r rfl
    exact ⟨hroom, _, by rw [hwhole, hlen]⟩

theorem palloc_of_le (fresh : Nat → UInt8) (h : size ≤ 0x3fffffff) :
    palloc fresh size = .ok ((range size).map fresh) := by
  rw [palloc, if_pos ⟨by omega, by omega⟩, Int.toNat_natCast]

variable {row : List UInt8}

theorem length_timestampOf (row : List UInt8) : (timestampOf row).length ≤ 63 :=
  length_take_le _ _

/-- The function is an allocation and the copying of the sections. -/
theorem bindRewriteTimestamp_eq (fresh : Nat → UInt8) (row : List UInt8) (m : BindPacket)
    (hk : m.params.length + k ≤ 65535) :
    bindRewriteTimestamp fresh [row] k m.params.length m.bytes m.bytes.length =
      if allocated (timestampOf row) k m.toBindMessage ≤ 0x3fffffff then
        copySections m.bytes (timestampOf row) k m.params.length
          (m.bytes.length + ((timestampOf row).length + 4) * k)
          ((range (allocated (timestampOf row) k m.toBindMessage)).map fresh)
      else .error .badAlloc := by
  have hmul : ((timestampOf row).length + 4) * k ≤ 67 * 65535 :=
    Nat.mul_le_mul (by have := length_timestampOf row; omega) (by omega)
  have hcast : ((timestampOf row).length + 4 : Int) * k =
      (((timestampOf row).length + 4) * k : Nat) := by push_cast; rfl
  have hlength := m.length_lt
  simp only [bindRewriteTimestamp, getCurrentTimestamp, hcast]
  by_cases hover : m.bytes.length + ((timestampOf row).length + 4) * k < 2 ^ 31
  · rw [int32_eq_self (by omega) (by omega)]
    split_ifs with hfits
    · have hsize := palloc_of_le fresh hfits
      have hint : (m.bytes.length : Int) + (((timestampOf row).length + 4) * k : Nat) +
          2 * (k + m.params.length) = allocated (timestampOf row) k m.toBindMessage := by
        unfold allocated
        push_cast
        ring
      rw [hint, hsize, ok_bind]
    · unfold allocated at hfits
      rw [palloc, if_neg (by omega)]
      rfl
  · -- the length wraps, and becomes a size that is refused as well
    rw [int32_of_wrap (by omega) (by omega), palloc, if_neg (by omega), if_neg]
    · rfl
    · unfold allocated
      omega

/-- **A message of at most 32767 parameters is rewritten.** -/
theorem bindRewriteTimestamp_rewritten {fresh : Nat → UInt8} (m : BindPacket)
    (hk : m.params.length + k ≤ 65535) (hn : m.params.length ≤ 32767)
    (hfits : allocated (timestampOf row) k m.toBindMessage ≤ 0x3fffffff) :
    Rewritten (timestampOf row) k m.toBindMessage
      (bindRewriteTimestamp fresh [row] k m.params.length m.bytes m.bytes.length) := by
  have hts : (timestampOf row).length < 2 ^ 31 := by
    have := length_timestampOf row
    omega
  rw [bindRewriteTimestamp_eq fresh row m hk, if_pos hfits]
  have hfresh : ((range (allocated (timestampOf row) k m.toBindMessage)).map fresh).length =
      allocated (timestampOf row) k m.toBindMessage := by
    rw [length_map, length_range]
  have hsections := copySections_returns hk hts hn rfl hfresh hfits
  cases hrun : copySections m.bytes (timestampOf row) k m.params.length
      (m.bytes.length + ((timestampOf row).length + 4) * k)
      ((range (allocated (timestampOf row) k m.toBindMessage)).map fresh) with
  | error e =>
    rw [hrun] at hsections
    exact hsections.elim
  | ok r =>
    rw [hrun] at hsections
    obtain ⟨hroom, rest, rfl⟩ := hsections
    rw [hfresh] at hroom
    refine ⟨_, _, ⟨m.toBindMessage.withTimestamps _ k hk hts, by omega⟩, rfl, by simp, by simp,
      rfl, rfl, rfl, rfl, ?_⟩
    have hcount : (m.toBindMessage.withTimestamps (timestampOf row) k hk hts).params.length =
        m.params.length + k := by
      simp [BindMessage.withTimestamps]
    rw [hcount]
    exact effectiveFormats_newFormats m.formats_count

/-! ## More than 32767 parameters -/

theorem length_params_ge (params : List (Option (List UInt8))) :
    4 * params.length ≤ (params.flatMap paramBytes).length := by
  induction params with
  | nil => simp
  | cons p params ih =>
    have hp : 4 ≤ (paramBytes p).length := by cases p <;> simp [paramBytes]
    rw [flatMap_cons, length_append, length_cons]
    omega

theorem copyParamSection_negative (h : Progress origMsg fresh (word n ++ rest) written c)
    (hn : 32767 < n) (hk : n + k ≤ 65535) (hroom : written.length + 2 ≤ fresh.length) :
    Returns (copyParamSection origMsg k c)
      (Progress origMsg fresh rest (written ++ word (n + k))) NoFault := by
  have hcount : (int16 n).toNat = 0 := by
    rw [int16_neg hn (by omega)]
    omega
  simp only [copyParamSection, fetch_next h (m := 2) (by simp), ok_bind,
    ntohs_word (show n ≤ 65535 by omega), htons_int16_add hk, hcount, paramsLength]
  refine (put_progress h (by simpa using hroom)).bind fun c₁ hc₁ => ?_
  have hskip : Progress origMsg fresh ([] ++ rest) (written ++ word (n + k)) (skip c₁ 2) :=
    skip_progress hc₁ (by simp)
  have hnone := transfer_progress (m := 0) hskip rfl (by simpa using hskip.fits)
  simpa using hnone

/-- With at most one format code, the parameters are skipped, and two bytes of the first one are
taken for the number of result formats: the end of what is returned is never written. -/
theorem copySections_unfinished (fresh : List UInt8) (hn : 32767 < m.params.length)
    (hk : m.params.length + k ≤ 65535) (hcodes : m.formats.length ≤ 1)
    (hlen : len = m.bytes.length + (ts.length + 4) * k)
    (hfresh : fresh.length = allocated ts k m) (hfits : allocated ts k m ≤ 0x3fffffff) :
    Returns (copySections m.bytes ts k m.params.length len fresh)
      (fun r => ∃ (bytes : List UInt8) (len' : Nat), bytes.length < len' ∧ len' ≤ fresh.length ∧
        r = some (bytes ++ fresh.drop bytes.length, (len' : Int))) NoFault := by
  obtain ⟨area, harea⟩ : ∃ area, area = m.params.flatMap paramBytes ++
      (word m.resultFormats.length ++ codeBytes m.resultFormats) := ⟨_, rfl⟩
  have hparams := length_params_ge m.params
  have hlong : area.length =
      (m.params.flatMap paramBytes).length + (2 + 2 * m.resultFormats.length) := by
    rw [harea, length_append, length_append, length_word, length_codeBytes]
  have hcount : ntohs (area.take 2) < 256 ^ (area.take 2).length := ofBe_lt _
  rw [length_take, min_eq_left (by omega)] at hcount
  obtain ⟨results, hresults⟩ : ∃ results, results = area.take (2 + 2 * ntohs (area.take 2)) :=
    ⟨_, rfl⟩
  have hlength : results.length = 2 + 2 * ntohs (area.take 2) := by
    rw [hresults, length_take]
    omega
  have hfirst : results.take 2 = area.take 2 := by
    rw [hresults, take_take, min_eq_left (by omega)]
  have hsplit : results ++ area.drop results.length = area := by
    rw [hlength, hresults, take_append_drop]
  obtain ⟨bytes, hbytes⟩ : ∃ bytes, bytes = m.portal ++ [0] ++ (m.stmt ++ [0]) ++
      (word (newFormats m.params.length k m.formats).length ++
        codeBytes (newFormats m.params.length k m.formats)) ++ word (m.params.length + k) ++
      (replicate k (some ts)).flatMap paramBytes ++ results := ⟨_, rfl⟩
  have hwritten : bytes.length = m.portal.length + m.stmt.length +
      2 * (newFormats m.params.length k m.formats).length + (ts.length + 4) * k +
        results.length + 6 := by
    simp [hbytes, -length_flatMap, length_timestampParams]
    omega
  have hnew := length_newFormats_le (k := k) m.formats_count
  have hwhole := m.length_bytes
  have hcast : ((ts.length + 4) * k : Nat) = ((ts.length : Int) + 4) * k := by push_cast; rfl
  unfold allocated at hfresh hfits
  have horig : m.portal ++ [0] ++ (m.stmt ++ [0] ++ (word m.formats.length ++
      codeBytes m.formats ++ (word m.params.length ++ area))) = m.bytes := by
    simp [BindMessage.bytes, harea]
  refine (copySections_of_params m.formats results (area.drop results.length) horig hbytes.symm
    m.no_nul_portal m.no_nul_stmt m.formats_count (by omega) hk (by omega) (by omega)
    (by rw [hfirst, hlength]) (by omega) fun h hroom => ?_).mono ?_ fun _ h => h
  · rw [hsplit]
    exact copyParamSection_negative h hn hk (by simpa using hroom)
  · rintro r rfl
    refine ⟨bytes, m.bytes.length + (ts.length + 4) * k +
      2 * (newFormats m.params.length k m.formats).length - 2 * m.formats.length, by omega,
      by omega, ?_⟩
    congr 2
    omega

/-- The end of a message are its result formats. -/
theorem BindMessage.getLast?_bytes (m : BindMessage) : m.bytes.getLast? =
    (word m.resultFormats.length ++ codeBytes m.resultFormats).getLast? :=
  getLast?_append_of_ne_nil _ (ne_nil_of_length_pos (by simp))

theorem getLast?_take_fill {b : UInt8} {len : Nat} (hlen : written.length < len)
    (hsize : len ≤ size) :
    ((written ++ (replicate size b).drop written.length).take len).getLast? = some b := by
  obtain ⟨j, hj⟩ : ∃ j, min (len - written.length) (size - written.length) = j + 1 :=
    Nat.exists_eq_succ_of_ne_zero (by omega)
  rw [take_append, take_of_length_le (by omega), drop_replicate, take_replicate,
    hj, replicate_succ', ← append_assoc, List.getLast?_concat]

/-- **More than 32767 parameters are lost**, whatever byte but one the memory is filled with. -/
theorem not_rewritten_of_many (row : List UInt8) {m : BindPacket} {b : UInt8}
    (hn : 32767 < m.params.length) (hk : m.params.length + k ≤ 65535)
    (hcodes : m.formats.length ≤ 32767) (hb : m.bytes.getLast? ≠ some b) :
    ¬ Rewritten (timestampOf row) k m.toBindMessage
      (bindRewriteTimestamp (fun _ => b) [row] k m.params.length m.bytes m.bytes.length) := by
  have hfresh : (range (allocated (timestampOf row) k m.toBindMessage)).map (fun _ => b) =
      replicate (allocated (timestampOf row) k m.toBindMessage) b := by
    rw [map_const', length_range]
  have hone : m.formats.length ≤ 1 := by
    have := m.formats_count
    omega
  rw [bindRewriteTimestamp_eq _ row m hk, hfresh]
  rintro ⟨buf, len, m', hok, -, htake, -, -, hresults, -⟩
  split_ifs at hok with hfits
  have hsections := copySections_unfinished (replicate _ b) hn hk hone rfl length_replicate hfits
  rw [hok] at hsections
  obtain ⟨bytes, len', hlt, hle, heq⟩ := hsections
  obtain ⟨rfl, hlen⟩ := Prod.mk.inj (Option.some.inj heq)
  obtain rfl : len = len' := by exact_mod_cast hlen
  have hlast := m'.getLast?_bytes
  rw [← htake, getLast?_take_fill hlt (by simpa using hle), hresults, ← m.getLast?_bytes] at hlast
  exact hb hlast.symm

end Whole

/-- **Timestamps are added to a Bind message** as they should be, whatever the memory it is written
to contained, exactly if it has at most 32767 parameters and the allocator grants that memory. -/
theorem bind_rewritten_iff (row : List UInt8) (m : BindPacket) {k : Nat}
    (hk : m.params.length + k ≤ 65535) (hcodes : m.formats.length ≤ 32767) :
    (∀ fresh, Rewritten (timestampOf row) k m.toBindMessage
        (bindRewriteTimestamp fresh [row] k m.params.length m.bytes m.bytes.length)) ↔
      m.params.length ≤ 32767 ∧ allocated (timestampOf row) k m.toBindMessage ≤ 0x3fffffff := by
  constructor
  · intro h
    refine ⟨?_, ?_⟩
    · by_contra hn
      obtain ⟨b, hb⟩ : ∃ b, m.bytes.getLast? ≠ some b := by
        by_cases hzero : m.bytes.getLast? = some 0
        · exact ⟨1, by simp [hzero]⟩
        · exact ⟨0, hzero⟩
      exact not_rewritten_of_many row (by omega) hk hcodes hb (h _)
    · by_contra hfits
      obtain ⟨buf, len, m', hok, -⟩ := h fun _ => 0
      rw [bindRewriteTimestamp_eq _ row m hk, if_neg hfits] at hok
      cases hok
  · rintro ⟨hn, hfits⟩ fresh
    exact bindRewriteTimestamp_rewritten m hk hn hfits

/-- A message of one binary format for its two parameters, one of which is NULL. -/
def twoParams : BindPacket where
  portal := []
  stmt := [115]
  formats := [1]
  params := [some [7, 7], none]
  resultFormats := [0]
  no_nul_portal := by simp
  no_nul_stmt := by simp
  formats_count := by simp
  params_count := by simp
  params_small := by
    intro d hd
    simp only [mem_cons, Option.some.injEq, reduceCtorEq, not_mem_nil, or_false] at hd
    simp [hd]
  results_count := by simp
  length_lt := by decide +kernel

/-- Two parameters and one timestamp. -/
theorem bind_rewritten_twoParams :
    2 + 1 ≤ 65535 ∧ allocated (timestampOf [50, 48]) 1 twoParams.toBindMessage ≤ 0x3fffffff ∧
    ∀ fresh, Rewritten (timestampOf [50, 48]) 1 twoParams.toBindMessage
      (bindRewriteTimestamp fresh [[50, 48]] 1 2 twoParams.bytes twoParams.bytes.length) := by
  have hfits : allocated (timestampOf [50, 48]) 1 twoParams.toBindMessage ≤ 0x3fffffff := by
    decide +kernel
  exact ⟨by decide, hfits, (bind_rewritten_iff [50, 48] twoParams (by decide) (by decide)).2
    ⟨by decide, hfits⟩⟩

/-- A message of `n` empty parameters. -/
def emptyParams (n : Nat) (hn : n ≤ 65535) : BindPacket where
  portal := []
  stmt := []
  formats := []
  params := List.replicate n (some [])
  resultFormats := []
  no_nul_portal := by simp
  no_nul_stmt := by simp
  formats_count := by simp
  params_count := by simpa using hn
  params_small := by
    intro d hd
    obtain ⟨-, hd⟩ := mem_replicate.1 hd
    simp [Option.some.inj hd]
  results_count := by simp
  length_lt := by
    simp only [BindMessage.length_bytes, length_timestampParams, length_nil]
    omega

/-- **32768 empty parameters and one timestamp**: there is memory enough, and what is returned is
not the rewritten message. -/
theorem many_params_lost :
    allocated (timestampOf [50, 48]) 1 (emptyParams 32768 (by decide)).toBindMessage ≤ 0x3fffffff ∧
    ¬ Rewritten (timestampOf [50, 48]) 1 (emptyParams 32768 (by decide)).toBindMessage
      (bindRewriteTimestamp (fun _ => 1) [[50, 48]] 1 32768 (emptyParams 32768 (by decide)).bytes
        (emptyParams 32768 (by decide)).bytes.length) := by
  have hcount : (emptyParams 32768 (by decide)).params.length = 32768 := length_replicate
  have hlast : (emptyParams 32768 (by decide)).bytes.getLast? ≠ some 1 := by
    rw [BindMessage.getLast?_bytes]
    decide
  have hnot := not_rewritten_of_many (k := 1) [50, 48] (m := emptyParams 32768 (by decide))
    (by omega) (by omega) (Nat.zero_le _) hlast
  rw [hcount] at hnot
  refine ⟨?_, hnot⟩
  rw [allocated, BindMessage.length_bytes, hcount]
  simp only [emptyParams, length_timestampParams, length_nil]
  decide

end PgBalancer.Rewrite
