import PgBalancer.Auth.DoAuth

/-!
# Who gets a session

A session is opened by `ClientAuthentication`, where `pool_hba.conf` is in use, and
then by `pool_do_auth` or `pool_do_reauth`.  Somewhere on that way the client proves
itself by one of three exchanges, and `frontend_authenticated` is set.

* `authenticated_complete_iff` — **whatever the backends do, only complete answers
  authenticate a client, exactly if its first packet is not a proper beginning of the
  password that it may send in clear text.**
-/

open Std.Do

set_option mvcgen.warning false

namespace PgBalancer.Auth

open ByteMem List

variable (env : Env) (nodes : Nodes)

/-- `ClientAuthentication`, then `pool_do_auth` for new connections or `pool_do_reauth` for
pooled ones. -/
def startSession (reused : Bool) : AuthM Unit := do
  match (← get).frontend.poolHba with
  | some authMethod => clientAuthentication env authMethod
  | none => pure ()
  if reused then poolDoReauth env nodes else poolDoAuth env nodes

/-! ## The stored password and the answers to a request -/

/-- The password an entry stands for.  An MD5 entry stands for the one text that hashes to
it. -/
inductive Stores (username : Bytes) (m : PasswordMapping) : Bytes → Prop
  | plain (h : m.passwordType = .plaintext) : Stores username m m.password
  | text (h : m.passwordType = .textPrefixed) :
    Stores username m (m.password.drop (ascii "TEXT").length)
  | aes {pw : Bytes} (h : m.passwordType = .aes)
    (hdecrypt : env.getDecryptedPassword m.password = some pw) : Stores username m pw
  | md5 {pw : Bytes} (h : m.passwordType = .md5)
    (hhash : m.password = pgMd5Encrypt env pw username)
    (hideal : ∀ p, pgMd5Encrypt env p username = m.password → p = pw) : Stores username m pw

/-- The answer to an authentication request that is computed from the password `pw`: the
password itself, its salted MD5 hash, or a final SCRAM message with its proof. -/
inductive CompleteAnswer (username pw input : Bytes) : AuthRequest → Prop
  | clearText {payload rest : Bytes}
    (hread : readPasswordPacket env input = .ok (payload, rest)) (hpw : cstr payload = pw) :
    CompleteAnswer username pw input ⟨authReqPassword, []⟩
  | md5 {payload rest : Bytes}
    (hread : readPasswordPacket env input = .ok (payload, rest))
    (hanswer : cstr payload =
      pgMd5Encrypt env ((pgMd5Encrypt env pw username).drop (ascii "md5").length) env.md5Salt) :
    CompleteAnswer username pw input ⟨authReqMd5, env.md5Salt⟩
  | scram {before msg : Bytes} {st st' : ScramState} (hsuffix : before <:+ input)
    (hread : ∃ payload rest, readPasswordPacket env before = .ok (payload, rest) ∧
      msg = cstr payload)
    (hnonce : st.serverNonce = env.scram.b64Encode env.scramNonce)
    (hfinal : readClientFinalMessage env.scram st msg = .ok st')
    (hcontinues : st'.clientFinalNonce = st.clientNonce ++ st.serverNonce)
    (hproof : st'.clientProof = scramProof env.scram env.scramSalt pw st') :
    CompleteAnswer username pw input ⟨authReqSasl, ascii "SCRAM-SHA-256" ++ [0, 0]⟩

/-- What `get_auth_password` returns for an entry. -/
def storedOf (m : PasswordMapping) : Bytes × PasswordType :=
  if m.passwordType = .textPrefixed then (m.password.drop (ascii "TEXT").length, .plaintext)
  else (m.password, m.passwordType)

/-- The client's first packet is a beginning of the password, and not all of it. -/
def ProperAnswer (pw input : Bytes) : Prop :=
  ∃ payload rest, readPasswordPacket env input = .ok (payload, rest) ∧ payload <+: pw ∧
    payload ≠ pw

/-! ## Comparing with the stored password -/

variable {env} {username pw input b : Bytes} {m : PasswordMapping} {n : Nat}

theorem cstr_eq_self (h : 0 ∉ b) : cstr b = b := by
  refine takeWhile_eq_self_iff.2 ?_
  intro c hc
  simpa using fun h0 : c = 0 => h (h0 ▸ hc)

theorem cstr_append_nul (b t : Bytes) : cstr (b ++ 0 :: t) = cstr b := by
  rw [cstr, takeWhile_append]
  split
  · next hall =>
    have hb : b.takeWhile (fun c => decide (c ≠ 0)) <+: b := takeWhile_prefix _
    rw [cstr, hb.eq_of_length hall]
    simp
  · rfl

theorem Stores.no_nul (h : Stores env username m pw) : m.passwordType ≠ .md5 → 0 ∉ pw := by
  intro hmd5
  cases h with
  | plain => exact m.no_nul
  | text => exact fun h0 => m.no_nul (mem_of_mem_drop h0)
  | aes _ hdecrypt => exact env.no_nul_decrypted _ _ hdecrypt
  | md5 h => exact absurd h hmd5

theorem read_inMemory_of_le (behind : Mem) {s : Bytes} (h : n ≤ s.length) :
    ByteMem.read (inMemory behind s) 0 n = s.take n := by
  rw [inMemory, read_write_take (by simp; omega), take_append_of_le_length h]

/-- What is read from a string in memory is a beginning of it, or goes past its NUL. -/
theorem read_inMemory (behind : Mem) (s : Bytes) : ByteMem.read (inMemory behind s) 0 n <+: s ∨
      ∃ t, ByteMem.read (inMemory behind s) 0 n = s ++ 0 :: t := by
  rcases Nat.lt_or_ge s.length n with hlt | hle
  · obtain ⟨k, rfl⟩ := Nat.exists_eq_add_of_lt hlt
    refine .inr ⟨ByteMem.read (inMemory behind s) (s.length + 1) k, ?_⟩
    have hself : ByteMem.read (inMemory behind s) 0 (s.length + 1) = s ++ [0] := by
      have h := read_write_self behind 0 (s ++ [0])
      rwa [length_append] at h
    rw [show s.length + k + 1 = (s.length + 1) + k by omega, read_add, hself]
    simp
  · exact .inl (read_inMemory_of_le behind hle ▸ take_prefix ..)

theorem length_pgMd5Encrypt (passwd salt : Bytes) : (pgMd5Encrypt env passwd salt).length = 35 := by
  rw [pgMd5Encrypt, length_append, env.md5.length_hash]
  rfl

theorem PasswordMapping.length_of_md5 (h : m.passwordType = .md5) : m.password.length = 35 := by
  unfold passwordType getPasswordType at h
  split at h
  · split at h
    · assumption
    · cases h
  · split at h
    · cases h
    · split at h
      · cases h
      · split at h <;> cases h

/-- Unless the entry is a hash, the packet is compared with the password, on the length of
the packet. -/
theorem Stores.clearTextOperands_eq (h : Stores env username m pw) (hmd5 : m.passwordType ≠ .md5)
    (payload : Bytes) :
    clearTextOperands env username payload m = .ok (payload, pw, payload.length) := by
  cases h with
  | plain h => simp [clearTextOperands, h]
  | text h => simp [clearTextOperands, h]
  | aes h hdecrypt => simp [clearTextOperands, h, hdecrypt]
  | md5 h => exact absurd h hmd5

variable {payload stored userPwd d p : Bytes}

/-- **What the clear-text exchange takes for the password**: the password, or any proper
beginning of it if its text is known. -/
theorem Stores.clearText_accepted (h : Stores env username m pw)
    (hop : clearTextOperands env username payload m = .ok (userPwd, stored, n))
    (hcmp : memcmp (inMemory env.heap userPwd) (inMemory env.heap stored) n = false) :
    cstr payload = pw ∨ (m.passwordType ≠ .md5 ∧ payload <+: pw ∧ payload ≠ pw) := by
  have hread : ByteMem.read (inMemory env.heap userPwd) 0 n =
      ByteMem.read (inMemory env.heap stored) 0 n := by simpa [memcmp] using hcmp
  by_cases hmd5 : m.passwordType = .md5
  · -- both operands have the length of an MD5 entry
    left
    obtain ⟨rfl, rfl, rfl⟩ : pgMd5Encrypt env (cstr payload) username = userPwd ∧
        m.password = stored ∧ (pgMd5Encrypt env (cstr payload) username).length = n := by
      simpa [clearTextOperands, hmd5] using hop
    have hlen : m.password.length = (pgMd5Encrypt env (cstr payload) username).length := by
      rw [PasswordMapping.length_of_md5 hmd5, length_pgMd5Encrypt]
    rw [read_inMemory_of_le _ le_rfl, read_inMemory_of_le _ hlen.ge, take_length, ← hlen,
      take_length] at hread
    cases h with
    | plain h | text h | aes h => rw [hmd5] at h; cases h
    | md5 _ _ hideal => exact hideal _ hread
  · -- the operands are the packet and the password
    have hnul := h.no_nul hmd5
    rw [h.clearTextOperands_eq hmd5] at hop
    cases hop
    rw [read_inMemory_of_le _ le_rfl, take_length] at hread
    rcases read_inMemory env.heap pw with hpre | ⟨t, ht⟩
    · rw [← hread] at hpre
      by_cases heq : payload = pw
      · exact .inl (heq ▸ cstr_eq_self (heq ▸ hnul))
      · exact .inr ⟨hmd5, hpre, heq⟩
    · rw [hread, ht, cstr_append_nul]
      exact .inl (cstr_eq_self hnul)

theorem memcmp_of_beginning (behind : Mem) (h : payload <+: pw) :
    memcmp (inMemory behind payload) (inMemory behind pw) payload.length = false := by
  rw [memcmp, read_inMemory_of_le _ le_rfl, read_inMemory_of_le _ h.length_le, take_length,
    ← prefix_iff_eq_take.1 h]
  simp

theorem Stores.storedMd5_eq (h : Stores env username m pw)
    (hd : storedMd5 env username (storedOf m) = .ok d) : d = pgMd5Encrypt env pw username := by
  cases h with
  | plain h => simpa [storedOf, storedMd5, h, eq_comm] using hd
  | text h => simpa [storedOf, storedMd5, h, eq_comm] using hd
  | aes h hdecrypt => simpa [storedOf, storedMd5, h, hdecrypt, eq_comm] using hd
  | md5 h hhash => simpa [storedOf, storedMd5, h, hhash, eq_comm] using hd

theorem Stores.storedPlain_eq (h : Stores env username m pw)
    (hp : storedPlain env (storedOf m) = .ok p) : p = pw := by
  cases h with
  | plain h => simpa [storedOf, storedPlain, h, eq_comm] using hp
  | text h => simpa [storedOf, storedPlain, h, eq_comm] using hp
  | aes h hdecrypt => simpa [storedOf, storedPlain, h, hdecrypt, eq_comm] using hp
  | md5 h => simp [storedOf, storedPlain, h] at hp

/-! ## The exchanges -/

/-- A client with an entry in `pool_passwd`: the bytes it is going to send, the method
`pool_hba.conf` has for it, and the password of its entry.  Nobody knows another key that hashes to
the SCRAM key of that password. -/
structure Account (env : Env) where
  username : Bytes
  input : Bytes
  hba : Option UserAuth
  m : PasswordMapping
  pw : Bytes
  found : env.credentials username = some m
  stores : Stores env username m pw
  ideal : ∀ key, env.scram.hash key = env.scram.hash (clientKeyOf env.scram env.scramSalt pw) →
    key = clientKeyOf env.scram env.scramSalt pw

/-- The client has not been asked for anything yet. -/
structure Fresh (A : Account env) (fe : Frontend) : Prop where
  flag : fe.frontendAuthenticated = false
  sent : fe.sent = []
  input : fe.input = A.input
  user : fe.username = A.username
  size : fe.pwdSize = 0
  hba : fe.poolHba = A.hba
  mapping : fe.passwordMapping = none ∨ fe.passwordMapping = some A.m

/-- If the client is authenticated, the first request it was sent has been answered as `P`
says. -/
def Safe (P : AuthRequest → Prop) (fe : Frontend) : Prop :=
  fe.frontendAuthenticated = true → ∃ r rest, fe.sent = r :: rest ∧ P r

/-- The client is authenticated, by an answer as `P` says. -/
def Authed (P : AuthRequest → Prop) (fe : Frontend) : Prop :=
  fe.frontendAuthenticated = true ∧ ∃ r rest, fe.sent = r :: rest ∧ P r

/-- The client has not been authenticated yet. -/
abbrev Unauthed (fe : Frontend) : Prop := fe.frontendAuthenticated = false

/-- The client is authenticated, and was asked for its password in clear text. -/
abbrev Asked : Frontend → Prop := Authed (· = ⟨authReqPassword, []⟩)

/-- From a frontend with `I` the program ends in one with `O`, or fails in one with `E`. -/
abbrev Ends {α : Type} (I : Frontend → Prop) (p : AuthM α) (O E : Frontend → Prop) : Prop :=
  EStateM.Ends (fun s => I s.frontend) p (fun s => O s.frontend) fun s => E s.frontend

variable {A : Account env} {P Q : AuthRequest → Prop}

variable {fe fe' : Frontend} {s : AuthState} {rs : List AuthRequest} {F : Frontend → Prop}

theorem Authed.safe (h : Authed P fe) : Safe P fe := fun _ => h.2

theorem Authed.mono (h : Authed Q fe) (hQ : ∀ r, Q r → P r) : Authed P fe := by
  obtain ⟨hflag, r, rest, hsent, hr⟩ := h
  exact ⟨hflag, r, rest, hsent, hQ r hr⟩

theorem safe_of_not_authenticated (h : fe.frontendAuthenticated = false) : Safe P fe := by
  intro hflag
  rw [h] at hflag
  cases hflag

theorem Fresh.safe (h : Fresh A fe) : Safe P fe := safe_of_not_authenticated h.flag

/-- The request is answered in clear text by something `clearText_accepted` describes. -/
inductive ClearTextAnswer (A : Account env) : AuthRequest → Prop
  | complete {r : AuthRequest} (h : CompleteAnswer env A.username A.pw A.input r) :
    ClearTextAnswer A r
  | proper (hmd5 : A.m.passwordType ≠ .md5) (h : ProperAnswer env A.pw A.input) :
    ClearTextAnswer A ⟨authReqPassword, []⟩

/-- Moreover, the entry of the client has been looked up. -/
def Known (A : Account env) (fe : Frontend) : Prop :=
  Fresh A fe ∧ fe.passwordMapping = some A.m

theorem Known.facts (hhba : A.hba = none) (fe : Frontend) (h : Known A fe) :
    fe.passwordMapping.isNone = false ∧ fe.pwdSize = 0 ∧ fe.poolHba = none :=
  ⟨by simp [h.2], h.1.size, h.1.hba.trans hhba⟩

theorem Fresh.lookup (h : Fresh A s.frontend) : Known A
    (s.setMapping
      (s.frontend.passwordMapping <|> env.credentials s.frontend.username)).frontend := by
  have hm : (s.frontend.passwordMapping <|> env.credentials s.frontend.username) = some A.m := by
    rcases h.mapping with hm | hm <;> simp [hm, h.user, A.found]
  exact ⟨⟨h.flag, h.sent, h.input, h.user, h.size, h.hba, .inr hm⟩, hm⟩

variable {backend : Option Nat} {reauth : Bool}

theorem getAuthPassword_authed :
    Ends (Authed P) (getAuthPassword env backend reauth) (Authed P) fun _ => False := by
  mvcgen [getAuthPassword]

theorem getAuthPassword_fresh : ⦃fun s => ⌜Fresh A s.frontend⌝⦄ getAuthPassword env backend reauth
    ⦃post⟨fun r s => ⌜Known A s.frontend ∧ r = some (storedOf A.m)⌝, fun _ _ => ⌜False⌝⟩⦄ := by
  mvcgen [getAuthPassword]
  all_goals
    have hknown := Fresh.lookup ‹Fresh A _›
    grind [storedOf, Known]

theorem Authed.sent_append (h : Authed P fe) (hflag : fe'.frontendAuthenticated = true)
    (hsent : fe'.sent = fe.sent ++ rs) : Authed P fe' := by
  obtain ⟨-, r, rest, hr, hP⟩ := h
  exact ⟨hflag, r, rest ++ rs, by rw [hsent, hr, cons_append], hP⟩

/-- An authenticated client stays so, whatever it answers when it is asked once more. -/
theorem authenticateFrontendClearText_authed :
    Ends (Authed P) (authenticateFrontendClearText env) (Authed P) (Authed P) := by
  mvcgen [authenticateFrontendClearText, sendAuthRequest, fromFrontend, liftExcept, ereportIf]
  all_goals
    have hauthed := ‹Authed P _›
    exact hauthed.sent_append (by first | rfl | exact hauthed.1) rfl

/-- A clear text password is accepted only if it is the right one. -/
theorem authenticateFrontendClearText_fresh :
    Ends (Known A) (authenticateFrontendClearText env) (Authed (ClearTextAnswer A)) Unauthed := by
  mvcgen [authenticateFrontendClearText, sendAuthRequest, fromFrontend, liftExcept, ereportIf]
  case vc3.h_1.h_2.h_1.isFalse =>
    rename_i s hs t₁ read hread t₂ fe mapping hmapping operands hop hcmp t₃
    obtain ⟨hfresh, hm⟩ := hs
    obtain ⟨payload, rest⟩ := read
    obtain ⟨userPwd, stored, n⟩ := operands
    have hread : readPasswordPacket env A.input = .ok (payload, rest) := by
      rw [← hfresh.input]; exact hread
    have hop : clearTextOperands env A.username payload A.m = .ok (userPwd, stored, n) := by
      obtain rfl : mapping = A.m := Option.some.inj (hmapping.symm.trans hm)
      rw [← hfresh.user]; exact hop
    have hsent : (t₃.2.frontend).sent = [⟨authReqPassword, []⟩] :=
      congrArg (· ++ _) hfresh.sent
    refine ⟨rfl, _, _, hsent, ?_⟩
    rcases A.stores.clearText_accepted hop (by simpa using hcmp) with heq | ⟨hmd5, hpre, hne⟩
    · exact .complete (.clearText hread heq)
    · exact .proper hmd5 ⟨payload, rest, hread, hpre, hne⟩
  case vc1.h_1.h_1 =>
    rename_i s hs t₁ read hread t₂ fe hmapping
    exact absurd (hs.2.symm.trans hmapping) (by simp)
  all_goals
    have hs := ‹Known A _›
    exact hs.1.flag

theorem authenticateFrontendMd5_authed :
    Ends (Authed P) (authenticateFrontendMd5 env backend reauth) (Authed P) (Authed P) := by
  mvcgen [authenticateFrontendMd5, getAuthPassword_authed, sendAuthRequest, fromFrontend,
    liftExcept, ereportIf]
  all_goals
    have hauthed := ‹Authed P _›
    exact hauthed.sent_append (by first | rfl | exact hauthed.1) rfl

/-- An MD5 hash is accepted only if it is a complete answer. -/
theorem authenticateFrontendMd5_fresh (backend : Option Nat) (reauth : Bool) :
    Ends (Fresh A) (authenticateFrontendMd5 env backend reauth)
      (Authed (CompleteAnswer env A.username A.pw A.input)) Unauthed := by
  mvcgen [authenticateFrontendMd5, getAuthPassword_fresh, sendAuthRequest, fromFrontend,
    liftExcept, ereportIf]
  case vc5.post.success.h_2.h_1.h_1.isFalse =>
    rename_i _ _ found stored hfound s hs t₁ read hread fe md5 hmd5 encbuf hcmp t₂
    obtain ⟨⟨hfresh, -⟩, hstored⟩ := hs
    obtain ⟨payload, rest⟩ := read
    have hread : readPasswordPacket env A.input = .ok (payload, rest) := by
      rw [← hfresh.input]; exact hread
    have hmd5 : storedMd5 env A.username (storedOf A.m) = .ok md5 := by
      rw [← hfresh.user, ← Option.some.inj hstored]; exact hmd5
    have hsent : (t₂.2.frontend).sent = [⟨authReqMd5, env.md5Salt⟩] := congrArg (· ++ _) hfresh.sent
    refine ⟨rfl, _, _, hsent, .md5 hread ?_⟩
    rw [← A.stores.storedMd5_eq hmd5]
    exact not_not.1 hcmp
  all_goals
    have hs := ‹Known A _ ∧ _›
    exact hs.1.1.flag

/-! ### SCRAM -/

theorem cstrAt_write (data : Mem) (h : payload.length ≤ 1024) :
    cstrAt (write data 0 (payload ++ [0])) 0 = cstr payload := by
  obtain ⟨k, hk⟩ : ∃ k, 1025 - 0 = (payload ++ [0]).length + k :=
    ⟨1024 - payload.length, by simp; omega⟩
  rw [cstrAt, hk, read_add, read_write_self, append_assoc]
  exact cstr_append_nul ..

/-- What the SASL loop knows about an exchange that is under way. -/
structure Exchanging (A : Account env) (initial : Bool) (st : ScramState) (fe : Frontend) :
    Prop where
  flag : fe.frontendAuthenticated = false
  sent : ∃ rest, fe.sent = ⟨authReqSasl, ascii "SCRAM-SHA-256" ++ [0, 0]⟩ :: rest
  input : fe.input <:+ A.input
  verifier : st.verifier = pgBeScramBuildVerifier env.scram env.scramSalt A.pw
  phase : st.phase = .init ∨ (initial = false ∧ st.phase = .saltSent ∧
    st.serverNonce = env.scram.b64Encode env.scramNonce)

namespace Exchanging

variable {initial : Bool} {st st' : ScramState} {fe fe' : Frontend} {payload rest : Bytes}
  {msg out : Option Bytes} {len : Int} {data : Mem}

theorem next (h : Exchanging A initial st fe)
    (hread : readPasswordPacket env fe.input = .ok (payload, rest))
    (hstep : pgBeScramExchange env.scram env.scramNonce st msg len = .ok (st', .continue, out))
    (hflag : fe'.frontendAuthenticated = false) (hinput : fe'.input = rest)
    (hsent : ∃ rs, fe'.sent = fe.sent ++ rs) : Exchanging A false st' fe' := by
  obtain ⟨hverifier, -, hphase⟩ := pgBeScramExchange_continue hstep
  refine ⟨hflag, ?_, ?_, hverifier.trans h.verifier, ?_⟩
  · obtain ⟨rs, hrs⟩ := hsent
    obtain ⟨rest, hrest⟩ := h.sent
    exact ⟨rest ++ rs, by rw [hrs, hrest, cons_append]⟩
  · rw [hinput]
    obtain ⟨-, -, header, hheader⟩ := readPasswordPacket_eq_ok hread
    exact (hheader ▸ suffix_append _ _).trans h.input
  · rcases hphase with ⟨-, rfl⟩ | ⟨-, hsalt, hnonce⟩
    · rcases h.phase with hinit | ⟨-, hsalt, hnonce⟩
      · exact .inl hinit
      · exact .inr ⟨rfl, hsalt, hnonce⟩
    · exact .inr ⟨rfl, hsalt, hnonce⟩

theorem success (h : Exchanging A initial st fe)
    (hread : readPasswordPacket env fe.input = .ok (payload, rest))
    (hinput : saslInput initial (write data 0 (payload ++ [0])) payload.length = .ok (msg, len))
    (hstep : pgBeScramExchange env.scram env.scramNonce st msg len = .ok (st', .success, out)) :
    CompleteAnswer env A.username A.pw A.input ⟨authReqSasl, ascii "SCRAM-SHA-256" ++ [0, 0]⟩ := by
  obtain ⟨hsalt, -, text, st₁, rfl, hfinal, hcontinues, hproof⟩ :=
    pgBeScramExchange_success h.verifier A.ideal hstep
  rcases h.phase with hinit | ⟨rfl, -, hnonce⟩
  · rw [hinit] at hsalt
    cases hsalt
  · have htext : text = cstr payload := by
      rw [← cstrAt_write data (readPasswordPacket_eq_ok hread).2.1]
      obtain ⟨htext, -⟩ : cstrAt (write data 0 (payload ++ [0])) 0 = text ∧ _ := by
        simpa [saslInput, pure, Except.pure] using hinput
      exact htext.symm
    exact .scram h.input ⟨payload, rest, hread, htext⟩ hnonce hfinal hcontinues hproof

end Exchanging

/-- The exchange succeeds only on a complete answer to what was asked last. -/
theorem scramLoop_fresh (initial : Bool) (data : Mem) (st : ScramState) :
    ⦃fun s => ⌜Exchanging A initial st s.frontend⌝⦄ scramLoop env n initial data st
    ⦃post⟨fun r s => ⌜s.frontend.frontendAuthenticated = false ∧
        ∃ req rest, s.frontend.sent = req :: rest ∧
          (r = .success → CompleteAnswer env A.username A.pw A.input req)⌝,
      fun _ s => ⌜s.frontend.frontendAuthenticated = false⌝⟩⦄ := by
  induction n generalizing initial data st with
  | zero =>
    mvcgen [scramLoop]
    exact (‹Exchanging A initial st _›).flag
  | succ n ih =>
    -- one packet: it is read, taken apart, answered, and the loop goes on or ends
    mvcgen [scramLoop, ih, sendAuthRequest, fromFrontend, liftExcept]
    case vc1.succ.h_1.h_1.h_1.h_1.isTrue =>
      rename_i s h read hread data' input hinput r hstep _ out hout t hcontinue
      obtain ⟨st', result, output⟩ := r
      obtain rfl : result = .continue := hcontinue
      exact h.next hread hstep h.flag rfl ⟨_, rfl⟩
    case vc3.succ.h_1.h_1.h_1.h_2.isTrue =>
      rename_i s h read hread data' input hinput r hstep _ hout hcontinue
      obtain ⟨st', result, output⟩ := r
      obtain rfl : result = .continue := hcontinue
      exact h.next hread hstep h.flag rfl ⟨[], (append_nil _).symm⟩
    case vc2.succ.h_1.h_1.h_1.h_1.isFalse =>
      rename_i s h read hread data' input hinput r hstep _ out hout t hstop
      obtain ⟨st', result, output⟩ := r
      obtain ⟨more, hmore⟩ := h.sent
      refine ⟨h.flag, _, _, congrArg (· ++ _) hmore, ?_⟩
      intro hsuccess
      obtain rfl : result = .success := hsuccess
      exact h.success hread hinput hstep
    case vc4.succ.h_1.h_1.h_1.h_2.isFalse =>
      rename_i s h read hread data' input hinput r hstep _ hout hstop
      obtain ⟨st', result, output⟩ := r
      obtain ⟨more, hmore⟩ := h.sent
      refine ⟨h.flag, _, _, hmore, ?_⟩
      intro hsuccess
      obtain rfl : result = .success := hsuccess
      exact h.success hread hinput hstep
    all_goals
      have h := ‹Exchanging A initial st _›
      exact h.flag

theorem scramLoop_authed (initial : Bool) (data : Mem) (st : ScramState) :
    Ends (Authed P) (scramLoop env n initial data st) (Authed P) (Authed P) := by
  induction n generalizing initial data st with
  | zero => mvcgen [scramLoop]
  | succ n ih =>
    mvcgen [scramLoop, ih, sendAuthRequest, fromFrontend, liftExcept]
    all_goals
      have hauthed := ‹Authed P _›
      exact hauthed.sent_append hauthed.1 rfl

theorem authenticateFrontendScram_authed :
    Ends (Authed P) (authenticateFrontendScram env backend reauth) (Authed P) (Authed P) := by
  mvcgen [authenticateFrontendScram, getAuthPassword_authed, scramLoop_authed, sendAuthRequest,
    liftExcept, ereportIf]
  all_goals
    have hauthed := ‹Authed P _›
    first
      | exact hauthed.sent_append hauthed.1 rfl
      | exact ⟨rfl, hauthed.2⟩

/-- SCRAM succeeds only on a complete answer. -/
theorem authenticateFrontendScram_fresh (backend : Option Nat) (reauth : Bool) :
    Ends (Fresh A) (authenticateFrontendScram env backend reauth)
      (Authed (CompleteAnswer env A.username A.pw A.input)) Unauthed := by
  mvcgen [authenticateFrontendScram, getAuthPassword_fresh, scramLoop_fresh, sendAuthRequest,
    liftExcept, ereportIf]
  case vc6.post.success.h_2.h_1.isFalse.pre =>
    rename_i _ _ found stored hfound s hs password hplain shadowPass hproto t
    obtain ⟨⟨hfresh, -⟩, hstored⟩ := hs
    obtain rfl : password = A.pw :=
      A.stores.storedPlain_eq (by rw [← Option.some.inj hstored]; exact hplain)
    exact ⟨hfresh.flag, ⟨[], congrArg (· ++ _) hfresh.sent⟩, hfresh.input ▸ suffix_rfl, rfl,
      .inl rfl⟩
  case vc8.post.success.h_2.h_1.isFalse.post.success.isFalse =>
    rename_i _ _ _ _ _ _ _ _ _ _ _ _ result s hs hsuccess t
    obtain ⟨-, req, rest, hsent, hcomplete⟩ := hs
    exact ⟨rfl, req, rest, hsent, hcomplete (not_not.1 hsuccess)⟩
  case vc7.post.success.h_2.h_1.isFalse.post.success.isTrue =>
    rename_i _ _ _ _ _ _ _ _ _ _ _ _ result s hs hsuccess
    exact hs.1
  all_goals
    have hs := ‹Known A _ ∧ _›
    exact hs.1.1.flag

/-! ## The way through `pool_do_auth` and `pool_do_reauth` -/

/-- Either the client has not been asked for anything yet, or it is authenticated. -/
def Inv (A : Account env) (P : AuthRequest → Prop) (fe : Frontend) : Prop :=
  Fresh A fe ∨ Authed P fe

theorem Inv.safe (h : Inv A P fe) : Safe P fe := by
  rcases h with h | h
  · exact h.safe
  · exact h.safe

/-- An exchange that authenticates a client by answers as `Q` says, and leaves authenticated
clients authenticated. -/
theorem exchange_spec {p : AuthM Unit} (hfresh : Ends F p (Authed Q) Unauthed)
    (hauthed : Ends (Authed P) p (Authed P) (Authed P)) (hQ : ∀ r, Q r → P r) :
    Ends (fun fe => F fe ∨ Authed P fe) p (Authed P) (Safe P) := by
  refine EStateM.triple_or (EStateM.triple_mono hfresh ?_ ?_) (EStateM.triple_mono hauthed ?_ ?_)
  · exact fun _ _ h => h.mono hQ
  · exact fun _ _ hflag => safe_of_not_authenticated hflag
  · exact fun _ _ h => h
  · exact fun _ _ h => h.safe

variable {exchange : AuthM Unit} {doAuth : Nat → AuthM CInt} {r : Bytes × Bytes}

theorem getAuthPassword_spec : ⦃fun s => ⌜Inv A P s.frontend⌝⦄ getAuthPassword env backend reauth
    ⦃post⟨fun r s => ⌜(Known A s.frontend ∧ r = some (storedOf A.m)) ∨ Authed P s.frontend⌝,
      fun _ _ => ⌜False⌝⟩⦄ :=
  EStateM.triple_or
    (EStateM.triple_mono (getAuthPassword_fresh) (fun _ _ h => .inl h) fun _ _ h => h)
    (EStateM.triple_mono (getAuthPassword_authed) (fun _ _ h => .inr h) fun _ _ h => h)

theorem Authed.inv (h : Authed P fe) : Inv A P fe := .inr h

theorem Inv.authed (h : Inv A P fe) (hflag : fe.frontendAuthenticated = true) : Authed P fe := by
  rcases h with h | h
  · rw [h.flag] at hflag
    cases hflag
  · exact h

theorem sendAuthOk_authed : Ends (Authed P) sendAuthOk (Authed P) fun _ => False := by
  mvcgen [sendAuthOk, sendAuthRequest]
  have hauthed := ‹Authed P _›
  exact hauthed.sent_append hauthed.1 rfl

theorem sendAuthOk_safe : Ends (Inv A P) sendAuthOk (Safe P) (Safe P) := by
  mvcgen [sendAuthOk, sendAuthRequest]
  rcases ‹Inv A P _› with hfresh | hauthed
  · exact safe_of_not_authenticated hfresh.flag
  · exact Authed.safe (hauthed.sent_append (by exact hauthed.1) rfl)

variable {i : Nat}

theorem authenticateAtMain_spec (hexchange : Ends (Inv A P) exchange (Authed P) (Safe P))
    (i : Nat) :
    Ends (Inv A P) (authenticateAtMain env nodes exchange i)
      (fun fe => Inv A P fe ∧ (i = nodes.main → Authed P fe)) (Safe P) := by
  have hsize : ∀ fe, Fresh A fe → ¬ havePassword env fe := fun fe h hhave =>
    absurd h.size (Nat.ne_of_gt hhave.2.1)
  mvcgen [authenticateAtMain, onBackends_frame, hexchange]
    with grind [Inv, Fresh.flag, Authed]

variable {is : List Nat} {authkind : CInt}

theorem backendLoop_spec (failed : Ereport)
    (hbody : ∀ i, Ends (Inv A P) (doAuth i) (Inv A P) (Safe P)) (is : List Nat) (authkind : CInt) :
    Ends (Inv A P) (backendLoop doAuth failed is authkind) (Inv A P) (Safe P) := by
  induction is generalizing authkind with
  | nil => mvcgen [backendLoop]
  | cons i is ih => mvcgen [backendLoop, hbody, ih, ereportIf] with grind [Inv.safe]

section

variable (hP : ∀ r, ClearTextAnswer A r → P r)
include hP

theorem authenticateFrontendMd5_spec (backend : Option Nat) (reauth : Bool) :
    Ends (Inv A P) (authenticateFrontendMd5 env backend reauth) (Authed P) (Safe P) :=
  exchange_spec (authenticateFrontendMd5_fresh backend reauth)
    (authenticateFrontendMd5_authed) fun r h => hP r (.complete h)

theorem authenticateFrontendScram_spec (backend : Option Nat) (reauth : Bool) :
    Ends (Inv A P) (authenticateFrontendScram env backend reauth) (Authed P) (Safe P) :=
  exchange_spec (authenticateFrontendScram_fresh backend reauth)
    (authenticateFrontendScram_authed) fun r h => hP r (.complete h)

theorem authenticateFrontendClearText_spec :
    Ends (fun fe => Known A fe ∨ Authed P fe) (authenticateFrontendClearText env) (Authed P)
      (Safe P) :=
  exchange_spec authenticateFrontendClearText_fresh authenticateFrontendClearText_authed hP

theorem askInClearText_spec (notFound : Ereport) :
    Ends (fun fe => Known A fe ∨ Authed P fe) (askInClearText env i notFound) (Authed P)
      (Safe P) := by
  mvcgen [askInClearText, getAuthPassword_authed, authenticateFrontendClearText_spec]
    with grind [Authed.safe]

theorem doMd5_spec (stored : Bytes × PasswordType) :
    Ends (Inv A P) (doMd5 env nodes i stored) (Inv A P) (Safe P) := by
  have hmain := authenticateAtMain_spec nodes
    (authenticateFrontendMd5_spec hP (some i) false) i
  mvcgen [doMd5, onBackends_frame, hmain, sendAuthOk_authed, liftExcept, ereportIf]
    with grind [Inv.safe, Authed.safe, Authed.inv]

variable {messageLength : Int}

theorem doScram_spec (password : Bytes) :
    Ends (Inv A P) (doScram env nodes i messageLength password) (Inv A P) (Safe P) := by
  have hmain := authenticateAtMain_spec nodes
    (authenticateFrontendScram_spec hP (some i) false) i
  mvcgen [doScram, onBackends_frame, hmain] with grind [Inv.safe]

theorem md5Loop_spec (stored : Bytes × PasswordType) :
    Ends (Inv A P) (md5Loop env nodes stored is authkind) (Inv A P) (Safe P) :=
  backendLoop_spec _ (fun _ => doMd5_spec nodes hP stored) is authkind

theorem scramBackendLoop_spec (password : Bytes) :
    Ends (Inv A P) (scramBackendLoop env nodes messageLength password is) (Inv A P) (Safe P) := by
  induction is with
  | nil => mvcgen [scramBackendLoop]
  | cons i is ih => mvcgen [scramBackendLoop, doScram_spec, ih]

theorem branchPassword_spec (method : String) :
    Ends (Inv A P) (branchPassword env nodes method) (Inv A P) (Safe P) := by
  mvcgen [branchPassword, getAuthPassword_spec, askInClearText_spec] with grind [Authed.inv, Inv,
    Known]

variable (hhba : A.hba = none)
include hhba

theorem clearTextPassword_spec :
    Ends (Inv A P) (clearTextPassword env i reauth) (Authed P) (Safe P) := by
  have hfacts := Known.facts hhba
  mvcgen [clearTextPassword, getAuthPassword_spec, askInClearText_spec] with grind

theorem doClearTextPassword_spec :
    Ends (Inv A P) (doClearTextPassword env nodes i reauth) (Authed P) (Safe P) := by
  mvcgen [doClearTextPassword, onBackends_frame, clearTextPassword_spec, sendAuthOk_authed,
    liftExcept, ereportIf]
    with grind [Authed.safe, Inv.authed]

theorem clearTextLoop_spec :
    Ends (Inv A P) (clearTextLoop env nodes is authkind) (Inv A P) (Safe P) :=
  backendLoop_spec _ (fun _ => EStateM.triple_mono (doClearTextPassword_spec nodes hP hhba)
    (fun _ _ => Authed.inv) fun _ _ h => h) is authkind

theorem authBranch_spec :
    Ends (Inv A P) (authBranch env nodes messageLength authkind) (Safe P) (Safe P) := by
  mvcgen [authBranch, onBackends_frame, clearTextLoop_spec, md5Loop_spec, scramBackendLoop_spec,
    branchPassword_spec, sendAuthOk_safe, liftExcept]
    with grind [Inv.safe]

/-- **On new connections**: whatever the backends send, if the client ends up authenticated
then it has answered the first request it was sent as `P` says. -/
theorem poolDoAuth_spec : Ends (Inv A P) (poolDoAuth env nodes) (Safe P) (Safe P) := by
  mvcgen [poolDoAuth, onBackends_frame, authBranch_spec, ereportIf] with grind [Inv.safe]

/-- **On pooled connections.** -/
theorem poolDoReauth_spec : Ends (Inv A P) (poolDoReauth env nodes) (Safe P) (Safe P) := by
  have hok := sendAuthOk_safe (A := A) (P := P)
  mvcgen [poolDoReauth, doClearTextPassword_spec, authenticateFrontendMd5_spec,
    authenticateFrontendScram_spec, hok] with grind [Inv.safe, Authed.inv]

end

/-! ## The session -/

theorem readPasswordPacket_nil : readPasswordPacket env [] ≠ .ok r := by
  intro h
  obtain ⟨hpos, -, header, hnil⟩ := readPasswordPacket_eq_ok h
  simp only [nil_eq, append_eq_nil_iff] at hnil
  rw [hnil.1.2] at hpos
  cases hpos

/-- The same account with a client that sends nothing. -/
def Account.silent (A : Account env) : Account env := { A with input := [], hba := none }

theorem not_clearTextAnswer_silent (r : AuthRequest) : ¬ ClearTextAnswer A.silent r := by
  rintro (⟨h⟩ | ⟨-, payload, rest, hread, -⟩)
  · cases h with
    | clearText hread | md5 hread => exact readPasswordPacket_nil hread
    | scram hsuffix hread =>
      obtain ⟨payload, rest, hread, -⟩ := hread
      rw [suffix_nil.1 hsuffix] at hread
      exact readPasswordPacket_nil hread
  · exact readPasswordPacket_nil hread

/-- The second half of a session does not take an authentication back, nor does it replace
the first request: it runs as if a silent client had just connected. -/
theorem poolDoAuth_authed (A : Account env) :
    Ends (Authed P) (poolDoAuth env nodes) (Safe P) (Safe P) := by
  have hspec := poolDoAuth_spec nodes (A := A.silent) (P := P)
    (fun r h => absurd h (not_clearTextAnswer_silent r)) rfl
  mvcgen [hspec] with grind [Authed.inv]

variable (env) in
theorem poolDoReauth_authed : Ends (Authed P) (poolDoReauth env nodes) (Authed P) (Authed P) := by
  mvcgen [poolDoReauth, sendAuthOk_authed] with grind [Authed]

/-- How a client may get through: by a complete answer, or, where it may be asked for a
password in clear text first, by a proper beginning of a password whose text is known. -/
inductive GetsThrough (A : Account env) : AuthRequest → Prop
  | complete {r : AuthRequest} (h : CompleteAnswer env A.username A.pw A.input r) : GetsThrough A r
  | proper (hhba : A.hba = none ∨ A.hba = some .password) (hmd5 : A.m.passwordType ≠ .md5)
    (h : ProperAnswer env A.pw A.input) : GetsThrough A ⟨authReqPassword, []⟩

theorem Fresh.setMapping (h : Fresh A s.frontend) :
    Known A (s.setMapping (env.credentials s.frontend.username)).frontend := by
  have hm : env.credentials s.frontend.username = some A.m := by rw [h.user, A.found]
  exact ⟨⟨h.flag, h.sent, h.input, h.user, h.size, h.hba, .inr hm⟩, hm⟩

variable {authMethod : UserAuth}

/-- `authenticate_frontend`, for the methods that have the client prove its password. -/
theorem authenticateFrontend_spec (hhba : A.hba = some authMethod)
    (htrust : authMethod ≠ .trust) (hcert : authMethod ≠ .cert) :
    Ends (Known A) (authenticateFrontend env authMethod) (Authed (GetsThrough A)) Unauthed := by
  have hcomplete : ∀ {fe}, Authed (CompleteAnswer env A.username A.pw A.input) fe →
      Authed (GetsThrough A) fe := fun h => h.mono fun _ => .complete
  have hmd5 := authenticateFrontendMd5_fresh (A := A) none false
  have hscram := authenticateFrontendScram_fresh (A := A) none false
  cases authMethod with
  | trust => exact absurd rfl htrust
  | cert => exact absurd rfl hcert
  | reject | implicitReject =>
    mvcgen [authenticateFrontend]
    exact (‹Known A _›).1.flag
  | md5 =>
    mvcgen [authenticateFrontend, hmd5]
    all_goals grind [Known]
  | scram =>
    mvcgen [authenticateFrontend, hscram]
    all_goals grind [Known]
  | password =>
    mvcgen [authenticateFrontend, authenticateFrontendClearText_fresh]
    intro hauthed
    refine hauthed.mono fun r hr => ?_
    cases hr with
    | complete h => exact .complete h
    | proper hmd5 h => exact .proper (.inr hhba) hmd5 h

theorem clientAuthentication_spec (htrust : A.hba ≠ some .trust) (hcert : A.hba ≠ some .cert)
    (hhba : A.hba = some authMethod) :
    Ends (Fresh A) (clientAuthentication env authMethod) (Authed (GetsThrough A)) Unauthed := by
  have hauth := authenticateFrontend_spec hhba
    (by rintro rfl; exact htrust hhba) (by rintro rfl; exact hcert hhba)
  mvcgen [clientAuthentication, hauth, liftExcept]
  · have hfresh := ‹Fresh A _›
    exact hfresh.setMapping
  · have hfresh := ‹Fresh A _›
    exact hfresh.flag

/-- A session starts only for a client that gets through. -/
theorem startSession_spec (htrust : A.hba ≠ some .trust) (hcert : A.hba ≠ some .cert)
    (reused : Bool) : Ends (Fresh A) (startSession env nodes reused) (Safe (GetsThrough A))
      (Safe (GetsThrough A)) := by
  cases hhba : A.hba with
  | none =>
    -- the client is asked by the second half, for whatever the backends want
    have hthrough : ∀ r, ClearTextAnswer A r → GetsThrough A r := by
      intro r hr
      cases hr with
      | complete h => exact .complete h
      | proper hmd5 h => exact .proper (.inl hhba) hmd5 h
    have hre := poolDoReauth_spec nodes hthrough hhba
    have hdo := poolDoAuth_spec nodes hthrough hhba
    have hnone : ∀ fe, Fresh A fe → fe.poolHba = none := fun fe h => h.hba.trans hhba
    mvcgen [startSession, hre, hdo]
    all_goals grind [Inv]
  | some authMethod =>
    -- the client is authenticated before the backends are talked to
    have hre := poolDoReauth_authed env nodes (P := GetsThrough A)
    have hdo := poolDoAuth_authed nodes (P := GetsThrough A) A
    have hsome : ∀ fe, Fresh A fe → fe.poolHba = A.hba := fun fe h => h.hba
    mvcgen [startSession, clientAuthentication_spec, hre, hdo]
    all_goals grind [safe_of_not_authenticated, Authed.safe]

/-! ### A beginning of the password gets through -/

section Proper

variable (hmd5 : A.m.passwordType ≠ .md5) (hproper : ProperAnswer env A.pw A.input)
include hmd5 hproper

theorem authenticateFrontendClearText_proper :
    Ends (Known A) (authenticateFrontendClearText env) Asked fun _ => False := by
  obtain ⟨payload, rest, hread, hpre, -⟩ := hproper
  have hop := A.stores.clearTextOperands_eq hmd5 payload
  have hcmp := memcmp_of_beginning env.heap hpre
  mvcgen [authenticateFrontendClearText, sendAuthRequest, fromFrontend, liftExcept, ereportIf]
  all_goals
    have hknown := ‹Known A _›
    have hinput := hknown.1.input
    have huser := hknown.1.user
    have hsent := hknown.1.sent
    have hmapping := hknown.2
    grind [AuthState.send, AuthState.consume, AuthState.keepPassword, AuthState.setAuthenticated,
      Authed]

theorem askInClearText_proper (notFound : Ereport) :
    Ends (Known A) (askInClearText env i notFound) Asked Asked := by
  mvcgen [askInClearText, getAuthPassword_authed, authenticateFrontendClearText_proper]

theorem clearTextPassword_proper (hhba : A.hba = none) :
    Ends (Fresh A) (clearTextPassword env i reauth) Asked Asked := by
  have hfacts := Known.facts hhba
  mvcgen [clearTextPassword, getAuthPassword_fresh, askInClearText_proper] with grind

theorem poolDoReauth_proper (hhba : A.hba = none) :
    ⦃fun s => ⌜Fresh A s.frontend ∧ (s.backend nodes.main).authKind = authReqPassword⌝⦄
    poolDoReauth env nodes ⦃post⟨fun _ s => ⌜Asked s.frontend⌝,
      fun _ s => ⌜Asked s.frontend⌝⟩⦄ := by
  have hok := sendAuthOk_authed (P := (· = ⟨authReqPassword, []⟩))
  mvcgen [poolDoReauth, doClearTextPassword, onBackends_frame, clearTextPassword_proper, hok,
    liftExcept, ereportIf]
    with grind [Fresh.flag, authReqOk, authReqPassword]

theorem clientAuthentication_proper (authMethod : UserAuth) :
    Ends (fun fe => Fresh A fe ∧ authMethod = .password) (clientAuthentication env authMethod)
      Asked fun _ => False := by
  by_cases hmethod : authMethod = .password
  · subst hmethod
    mvcgen [clientAuthentication, authenticateFrontend, authenticateFrontendClearText_proper,
      liftExcept]
      with grind [Fresh.setMapping, checkHbaEntry]
  · exact EStateM.triple_iff.2 fun s hs => absurd hs.2 hmethod

theorem not_completeAnswer_proper :
    ¬ CompleteAnswer env A.username A.pw A.input ⟨authReqPassword, []⟩ := by
  obtain ⟨payload, rest, hread, hpre, hne⟩ := hproper
  rintro (⟨hread', hpw⟩)
  obtain ⟨rfl, rfl⟩ := Prod.mk.inj (Except.ok.inj (hread.symm.trans hread'))
  have hnul : 0 ∉ payload := fun h0 => A.stores.no_nul hmd5 (hpre.subset h0)
  exact hne ((cstr_eq_self hnul).symm.trans hpw)

theorem startSession_proper (hhba : A.hba = none ∨ A.hba = some .password) :
    ⦃fun s => ⌜Fresh A s.frontend ∧ (s.backend nodes.main).authKind = authReqPassword⌝⦄
    startSession env nodes true ⦃post⟨fun _ s => ⌜Asked s.frontend⌝,
      fun _ s => ⌜Asked s.frontend⌝⟩⦄ := by
  have hmethod : ∀ fe, Fresh A fe → fe.poolHba = A.hba := fun fe h => h.hba
  rcases hhba with hnone | hpassword
  · have hre := poolDoReauth_proper nodes hmd5 hproper hnone
    mvcgen [startSession, hre]
    all_goals grind
  · have hclient := clientAuthentication_proper hmd5 hproper
    have hre := poolDoReauth_authed env nodes (P := (· = ⟨authReqPassword, []⟩))
    mvcgen [startSession, hclient, hre]
    all_goals grind

end Proper

/-! ### The result -/

/-- The state in which the client of `A` has connected, over one backend that had asked for a
password in clear text when its connection was made. -/
def Account.connect (A : Account env) : AuthState where
  frontend :=
    { username := A.username, input := A.input, sent := [], authKind := 0, pwdSize := 0,
      password := [], passwordType := .unknown, frontendAuthenticated := false,
      passwordMapping := none, poolHba := A.hba, certCn := none }
  backend _ :=
    { input := [], sent := [], codes := [], authKind := authReqPassword, pwdSize := 0,
      password := [],
      passwordType := .unknown }

/-- A single backend. -/
def oneNode : Nodes where
  valid := [0]
  nodup := by simp
  main := 0
  main_mem := by simp
  sasl := ⟨Unit, fun _ _ _ => none, fun _ _ _ => none⟩

theorem Account.connect_fresh (A : Account env) : Fresh A A.connect.frontend :=
  ⟨rfl, rfl, rfl, rfl, rfl, rfl, .inl rfl⟩

/-- **Only the whole password authenticates a client**, whatever bytes it sends and whatever
the backends do, on new connections and on pooled ones, exactly if it cannot send a proper
beginning of the password: it is not asked for it in clear text, or its entry is an MD5
hash, or the first packet it has to send is not such a beginning. -/
theorem authenticated_complete_iff (A : Account env) (htrust : A.hba ≠ some .trust)
    (hcert : A.hba ≠ some .cert) :
    (∀ (nodes : Nodes) (reused : Bool) (s : AuthState), Fresh A s.frontend →
      Safe (CompleteAnswer env A.username A.pw A.input)
        (EStateM.final (startSession env nodes reused) s).frontend) ↔
    ¬ ((A.hba = none ∨ A.hba = some .password) ∧ A.m.passwordType ≠ .md5 ∧
      ProperAnswer env A.pw A.input) := by
  constructor
  · rintro hsafe ⟨hhba, hmd5, hproper⟩
    have hrun := EStateM.final_of_triple (startSession_proper oneNode hmd5 hproper hhba)
      ⟨A.connect_fresh, rfl⟩
    obtain ⟨hflag, r, rest, hsent, rfl⟩ := hrun
    obtain ⟨r', rest', hsent', hcomplete⟩ := hsafe oneNode true A.connect A.connect_fresh hflag
    obtain ⟨rfl, -⟩ := List.cons.inj (hsent.symm.trans hsent')
    exact not_completeAnswer_proper hmd5 hproper hcomplete
  · intro hnot nodes reused s hfresh hflag
    obtain ⟨r, rest, hsent, hr⟩ :=
      EStateM.final_of_triple (startSession_spec nodes htrust hcert reused) hfresh hflag
    refine ⟨r, rest, hsent, ?_⟩
    cases hr with
    | complete h => exact h
    | proper hhba hmd5 h => exact absurd ⟨hhba, hmd5, h⟩ hnot

/-! ### A user with the entry `secret` -/

theorem secret_no_nul : 0 ∉ ascii "secret" := by decide

/-- One user, `alice`, whose password is stored as it is. -/
def aliceEnv : Env where
  protoMajor := .v3
  numBackends := 1
  allowClearTextFrontendAuth := true
  credentials username := if username = ascii "alice" then
    some ⟨ascii "secret", secret_no_nul⟩ else none
  getDecryptedPassword _ := none
  no_nul_decrypted := by simp
  md5 := ⟨fun _ => List.replicate 32 97, by simp, by simp⟩
  scram :=
    { hmac := fun _ _ => List.replicate 32 0, length_hmac := by simp, hash := id, b64Encode := id,
      b64Decode := some }
  md5Salt := ascii "salt"
  scramSalt := ascii "salt"
  scramNonce := ascii "nonce"
  mockSalt := ascii "salt"
  heap _ := 0
  saslData _ := 0

/-- `alice`, without `pool_hba.conf`, sending the given packet. -/
def alice (packet : Bytes) : Account aliceEnv where
  username := ascii "alice"
  input := packet
  hba := none
  m := ⟨ascii "secret", by decide⟩
  pw := ascii "secret"
  found := by simp [aliceEnv]
  stores := .plain (by decide)
  ideal _ h := h

/-- The packet with the text `secret`, as a driver sends it. -/
def secretPacket : Bytes := ascii "p" ++ [0, 0, 0, 11] ++ ascii "secret" ++ [0]

/-- The packet with the single letter `s` and no terminating NUL. -/
def letterPacket : Bytes := ascii "p" ++ [0, 0, 0, 5] ++ ascii "s"

/-- The whole password is not a beginning of itself that gets through by being one. -/
theorem authenticated_complete_alice :
    (alice secretPacket).hba ≠ some .trust ∧ (alice secretPacket).hba ≠ some .cert ∧
    ∀ (nodes : Nodes) (reused : Bool) (s : AuthState), Fresh (alice secretPacket) s.frontend →
      Safe (CompleteAnswer aliceEnv (ascii "alice") (ascii "secret") secretPacket)
        (EStateM.final (startSession aliceEnv nodes reused) s).frontend := by
  refine ⟨by decide, by decide,
    (authenticated_complete_iff (alice secretPacket) (by decide) (by decide)).2 ?_⟩
  rintro ⟨-, -, payload, rest, hread, hpre, -⟩
  have hpacket : readPasswordPacket aliceEnv secretPacket = .ok (ascii "secret" ++ [0], []) := by
    decide +kernel
  obtain ⟨rfl, -⟩ := Prod.mk.inj (Except.ok.inj (hpacket.symm.trans hread))
  exact absurd hpre (by decide)

/-- A backend that asks for a password in clear text and takes the one it is sent. -/
def clearTextBackend : Backend where
  input := ascii "R" ++ [0, 0, 0, 8] ++ [0, 0, 0, 3] ++ ascii "R" ++ [0, 0, 0, 8] ++ [0, 0, 0, 0]
  sent := []
  codes := []
  authKind := 0
  pwdSize := 0
  password := []
  passwordType := .unknown

/-- **The letter `s` gets `alice` a session** on a new connection: the exchange with the
client and with the backend ends without an error, and the client is told that it is
authenticated. -/
theorem letter_authenticates_alice :
    let s := { (alice letterPacket).connect with backend := fun _ => clearTextBackend }
    readPasswordPacket aliceEnv letterPacket = .ok (ascii "s", []) ∧
    (startSession aliceEnv oneNode false).returns s ∧
    (EStateM.final (startSession aliceEnv oneNode false) s).frontend.frontendAuthenticated = true ∧
    (EStateM.final (startSession aliceEnv oneNode false) s).frontend.sent =
      [⟨authReqPassword, []⟩, ⟨authReqOk, []⟩] := by
  decide +kernel

end PgBalancer.Auth
