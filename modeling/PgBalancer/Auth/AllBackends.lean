import PgBalancer.Auth.Session

/-!
# Which backends have accepted a session

`pool_do_auth` goes on to the BackendKeyData phase when the value its branch leaves in
`authkind` is zero.  This file is about what that says on the answers of the backends.

* `session_accepted_iff` — **the session starts only if each backend has answered with
  AuthenticationOk, and then the client has been told once, exactly if the replies are
  truthful.**
-/

open Std.Do

set_option mvcgen.warning false

namespace PgBalancer.Auth

open List

variable (env : Env) (nodes : Nodes) {i j : Nat} {b b' : Backends}

/-! ## Replies -/

/-- The code at the start of a stream. -/
def codeAt (input : Bytes) : Option CInt :=
  match readInt input with
  | .ok (code, _) => some code
  | .error _ => none

/-- The code of the message that answers a password packet, if it is such a message. -/
def passwordReply (input : Bytes) : Option CInt :=
  match readByte input with
  | .error _ => none
  | .ok (response, input) =>
    if response ≠ 82 then none
    else if env.protoMajor = .v3 then
      match readInt input with
      | .error _ => none
      | .ok (len, input) => if len.ntohl.val ≠ 8 then none else codeAt input
    else codeAt input

/-- In the MD5 exchange the salt comes first. -/
def md5Reply (input : Bytes) : Option CInt :=
  match poolRead 4 input with
  | .error _ => none
  | .ok (_, input) => passwordReply env input

variable {password : Bytes}

theorem sendPasswordPacket_spec (b₀ : Backends) :
    ⦃fun b => ⌜b = b₀⌝⦄ sendPasswordPacket env i password
    ⦃post⟨fun code b => ⌜passwordReply env (b₀ i).input = some code ∧
        (b i).codes.getLast? = some code.ntohl.val ∧ ∀ j, j ≠ i → b j = b₀ j⌝,
      fun _ _ => ⌜passwordReply env (b₀ i).input = none⌝⟩⦄ := by
  mvcgen [sendPasswordPacket, toBackend, fromBackend, readCode, liftExcept, ereportIf]
    with grind [passwordReply, codeAt, Function.update_apply]

/-! ## What the client has to do with it -/

/-- What is left to read from each backend, and the codes that have been read from it. -/
structure Wire where
  input : Nat → Bytes
  codes : Nat → List Int

/-- What has come from the backends and what has been read of it. -/
def wire (b : Backends) : Wire := ⟨fun i => (b i).input, fun i => (b i).codes⟩

/-- The last code that has been read from backend `i`. -/
def Wire.lastCode (x : Wire) (i : Nat) : Option Int := (x.codes i).getLast?

/-- Backend `i` is on both wires in the same state. -/
def Wire.SameAt (x y : Wire) (i : Nat) : Prop := x.input i = y.input i ∧ x.codes i = y.codes i

variable {x y z : Wire}

theorem Wire.SameAt.trans (h₁ : x.SameAt y i) (h₂ : y.SameAt z i) :
    x.SameAt z i := ⟨h₁.1.trans h₂.1, h₁.2.trans h₂.2⟩

/-- Every backend but `i` is in the same state. -/
def Wire.SameExcept (x y : Wire) (i : Nat) : Prop := ∀ j, j ≠ i → x.SameAt y j

theorem Wire.SameExcept.lastCode_eq (h : x.SameExcept y i) (hj : j ≠ i) :
    x.lastCode j = y.lastCode j := by
  rw [Wire.lastCode, (h j hj).2, Wire.lastCode]

@[simp] theorem Wire.SameExcept.refl (x : Wire) (i : Nat) : x.SameExcept x i :=
  fun _ _ => ⟨rfl, rfl⟩

@[grind →] theorem Wire.SameExcept.trans (h₁ : x.SameExcept y i) (h₂ : y.SameExcept z i) :
    x.SameExcept z i := fun j hj => (h₁ j hj).trans (h₂ j hj)

theorem sameAt_wire (h : b i = b' i) : (wire b).SameAt (wire b') i :=
  ⟨congrArg Backend.input h, congrArg Backend.codes h⟩

/-- The number of AuthenticationOk packets the client has been sent. -/
def Frontend.oks (fe : Frontend) : Nat := fe.sent.count ⟨authReqOk, []⟩

/-- A client that need not be asked for anything: it is authenticated, and its password is
stored in plain text. -/
def Ready (fe : Frontend) : Prop :=
  fe.frontendAuthenticated = true ∧ 0 < fe.pwdSize ∧
    ∃ m, fe.passwordMapping = some m ∧ m.passwordType = .plaintext

variable (w : Wire) (n : Nat) (R : Prop) {exchange : AuthM Unit} {doAuth : Nat → AuthM CInt}
  {reply : Bytes → Option CInt} {ret : CInt → CInt}

/-- Nothing has been read from the backends since they were in the state `w`, and the client
has been told `n` times that it is authenticated. -/
structure Quiet (s : AuthState) : Prop where
  wire : wire s.backend = w
  oks : s.frontend.oks = n

/-- Moreover, if `R` holds the client is ready. -/
abbrev Prepared (s : AuthState) : Prop := Quiet w n s ∧ (R → Ready s.frontend)

/-- The password of a client that is ready has been found. -/
abbrev Provided (r : Option (Bytes × PasswordType)) (s : AuthState) : Prop :=
  Quiet w n s ∧ (R → Ready s.frontend ∧ r.map Prod.snd = some .plaintext)

/-- What is between the client and the pooler. -/
abbrev StaysQuiet {α : Type} (p : AuthM α) : Prop :=
  EStateM.Ends (Quiet w n) p (Quiet w n) fun _ => True

variable {r : AuthRequest}

@[grind =] theorem AuthState.oks_send (s : AuthState) :
    (s.send r).frontend.oks = s.frontend.oks + if r = ⟨authReqOk, []⟩ then 1 else 0 := by
  simp [Frontend.oks, AuthState.send, count_append, count_singleton]

@[grind =] theorem AuthState.ready_send (s : AuthState) :
    Ready (s.send r).frontend = Ready s.frontend := rfl

@[grind =] theorem AuthState.backend_send (s : AuthState) : (s.send r).backend = s.backend := rfl

theorem sendAuthRequest_quiet (code : Int) (extradata : Bytes) (hcode : code ≠ authReqOk) :
    EStateM.Ends (Quiet w n) (sendAuthRequest code extradata) (Quiet w n) fun _ => False := by
  mvcgen [sendAuthRequest] with grind [Quiet]

theorem getAuthPassword_quiet (backend : Option Nat) (reauth : Bool) :
    ⦃fun s => ⌜Prepared w n R s⌝⦄ getAuthPassword env backend reauth
    ⦃post⟨fun r s => ⌜Provided w n R r s⌝, fun _ _ => ⌜False⌝⟩⦄ := by
  mvcgen [getAuthPassword]
    with grind [Quiet, Ready, Frontend.oks, AuthState.setMapping]

variable {w n} in
theorem Quiet.of_frontend {s s' : AuthState} (h : Quiet w n s) (hbackend : s'.backend = s.backend)
    (hsent : s'.frontend.sent = s.frontend.sent) : Quiet w n s' :=
  ⟨hbackend ▸ h.wire, by rw [← h.oks, Frontend.oks, Frontend.oks, hsent]⟩

theorem fromFrontend_quiet {α : Type} (f : Bytes → Except Ereport (α × Bytes)) :
    StaysQuiet w n (fromFrontend f) := by
  mvcgen [fromFrontend, liftExcept] with grind [Quiet.of_frontend, AuthState.consume]

theorem authenticateFrontendClearText_quiet :
    StaysQuiet w n (authenticateFrontendClearText env) := by
  mvcgen [authenticateFrontendClearText, sendAuthRequest_quiet, fromFrontend_quiet, liftExcept,
    ereportIf]
    with grind [Quiet.of_frontend, AuthState.keepPassword, AuthState.setAuthenticated, authReqOk,
      authReqPassword]

theorem authenticateFrontendMd5_quiet (backend : Option Nat) (reauth : Bool) :
    StaysQuiet w n (authenticateFrontendMd5 env backend reauth) := by
  have hget := getAuthPassword_quiet env w n False
  mvcgen [authenticateFrontendMd5, hget, sendAuthRequest_quiet, fromFrontend_quiet, liftExcept,
    ereportIf]
    with grind [Quiet.of_frontend, AuthState.setAuthenticated, authReqOk, authReqMd5]

theorem scramLoop_quiet (k : Nat) (initial : Bool) (data : ByteMem.Mem) (st : ScramState) :
    StaysQuiet w n (scramLoop env k initial data st) := by
  have hsend := sendAuthRequest_quiet w n
  have hread := fromFrontend_quiet w n (readPasswordPacket env)
  induction k generalizing initial data st with
  | zero => mvcgen [scramLoop]
  | succ k ih =>
    mvcgen [scramLoop, ih, hsend, hread, liftExcept]
      with grind [authReqOk, authReqSaslCont, authReqSaslFin]

theorem authenticateFrontendScram_quiet (backend : Option Nat) (reauth : Bool) :
    StaysQuiet w n (authenticateFrontendScram env backend reauth) := by
  have hget := getAuthPassword_quiet env w n False
  mvcgen [authenticateFrontendScram, hget, sendAuthRequest_quiet, scramLoop_quiet, liftExcept,
    ereportIf]
    with grind [Quiet.of_frontend, AuthState.setAuthenticated, authReqOk, authReqSasl]

theorem askInClearText_quiet (i : Nat) (notFound : Ereport) :
    StaysQuiet w n (askInClearText env i notFound) := by
  have hget := getAuthPassword_quiet env w n False
  have hask := authenticateFrontendClearText_quiet env w n
  mvcgen [askInClearText, hask, hget] with grind

theorem clearTextPassword_quiet (i : Nat) :
    ⦃fun s => ⌜Prepared w n R s⌝⦄ clearTextPassword env i false
    ⦃post⟨fun r s => ⌜Provided w n R r s⌝, fun _ _ => ⌜¬ R⌝⟩⦄ := by
  have hget := getAuthPassword_quiet env w n R
  have hask := askInClearText_quiet env w n
  mvcgen [clearTextPassword, hget, hask] with grind [Ready, Option.isNone_iff_eq_none]

theorem branchPassword_quiet (method : String) :
    ⦃fun s => ⌜Prepared w n R s⌝⦄ branchPassword env nodes method
    ⦃post⟨fun r s => ⌜Provided w n R r s⌝, fun _ _ => ⌜¬ R⌝⟩⦄ := by
  mvcgen [branchPassword, getAuthPassword_quiet, askInClearText_quiet] with grind [Ready]

/-! ## One backend -/

/-- What an exchange with backend `i` leaves behind that has ended with the code `x`. -/
def Answered (i : Nat) (x : CInt) (s : AuthState) : Prop :=
  (wire s.backend).lastCode i = some x.ntohl.val ∧ (wire s.backend).SameExcept w i ∧
    s.frontend.oks = n + (if i = nodes.main ∧ x.val = 0 then 1 else 0) ∧ (R → Ready s.frontend)

/-- The code `code` has been read from backend `i`, and nothing from the others. -/
abbrev HasRead (i : Nat) (code : Int) (b : Backends) : Prop :=
  (wire b).lastCode i = some code ∧ (wire b).SameExcept w i

theorem sendPasswordPacket_wire (i : Nat) (password : Bytes) :
    ⦃fun b => ⌜wire b = w⌝⦄ sendPasswordPacket env i password
    ⦃post⟨fun x b => ⌜passwordReply env (w.input i) = some x ∧ HasRead w i x.ntohl.val b⌝,
      fun _ _ => ⌜passwordReply env (w.input i) = none⌝⟩⦄ := by
  refine EStateM.triple_iff.2 ?_
  rintro b rfl
  obtain ⟨hok, herror⟩ := EStateM.triple_iff.1 (sendPasswordPacket_spec env b) b rfl
  refine ⟨fun x b' hrun => ?_, herror⟩
  obtain ⟨hreply, hlast, hothers⟩ := hok x b' hrun
  exact ⟨hreply, hlast, fun j hj => sameAt_wire (hothers j hj)⟩

theorem wire_update {x : Backend} (hinput : x.input = (b i).input)
    (hcodes : x.codes = (b i).codes) :
    wire (Function.update b i x) = wire b := by
  have hsame : ∀ j, (Function.update b i x j).input = (b j).input ∧
      (Function.update b i x j).codes = (b j).codes := by
    intro j
    by_cases h : j = i
    · subst h
      simp [hinput, hcodes]
    · simp [h]
  simp [wire, hsame]

theorem savePassword_wire (i : Nat) (password : Bytes) (type : PasswordType) :
    EStateM.Ends (wire · = w) (savePassword i password type) (wire · = w) fun _ => False := by
  mvcgen [savePassword]
  refine Eq.trans ?_ ‹wire _ = w›
  apply wire_update <;> rfl

theorem setAuthKind_wire (i : Nat) (kind : Int) :
    EStateM.Ends (wire · = w) (setAuthKind i kind) (wire · = w) fun _ => False := by
  mvcgen [setAuthKind]
  refine Eq.trans ?_ ‹wire _ = w›
  apply wire_update <;> rfl

theorem doClearTextPassword_answered :
    ⦃fun s => ⌜Prepared w n R s⌝⦄ doClearTextPassword env nodes i false
    ⦃post⟨fun x s => ⌜passwordReply env (w.input i) = some x ∧ Answered nodes w n R i x s⌝,
      fun _ _ => ⌜¬ (R ∧ (passwordReply env (w.input i)).isSome)⌝⟩⦄ := by
  have hpassword := clearTextPassword_quiet env w n R
  have hsend := fun w pw fe => onBackends_spec (sendPasswordPacket_wire env w i pw) fe
  have husable : ∀ r, r.map Prod.snd = some PasswordType.plaintext →
      ∃ p, usablePassword env r = .ok p := by
    rintro (_ | ⟨p, type⟩) h
    · cases h
    · cases h
      exact ⟨_, rfl⟩
  have hkind := fun w fe => onBackends_spec (setAuthKind_wire w i authReqPassword) fe
  have hsave := fun w fe pw => onBackends_spec (savePassword_wire w i pw .plaintext) fe
  mvcgen [doClearTextPassword, hpassword, hsend, hkind, hsave, sendAuthOk, sendAuthRequest,
    liftExcept]
    with grind [Answered, Quiet, authReqOk]

theorem authenticateAtMain_quiet (hexchange : StaysQuiet w n exchange) (i : Nat) :
    ⦃fun s => ⌜Prepared w n R s⌝⦄ authenticateAtMain env nodes exchange i
    ⦃post⟨fun _ s => ⌜Prepared w n R s⌝, fun _ _ => ⌜¬ R⌝⟩⦄ := by
  have hsave := fun w pw type fe => onBackends_spec (savePassword_wire w i pw type) fe
  mvcgen [authenticateAtMain, hexchange, hsave] with grind [Quiet, Ready]

theorem fromBackend_wire {α : Type} (f : Bytes → Except Ereport (α × Bytes)) (i : Nat) :
    ⦃fun b => ⌜wire b = w⌝⦄ fromBackend i f
    ⦃post⟨fun a b =>
      ⌜f (w.input i) = .ok (a, (wire b).input i) ∧ (wire b).lastCode i = w.lastCode i ∧
        (wire b).SameExcept w i⌝, fun e _ => ⌜f (w.input i) = .error e⌝⟩⦄ := by
  mvcgen [fromBackend, liftExcept]
  · rename_i b hb r hr
    subst hb
    refine ⟨?_, ?_, fun j hj => sameAt_wire ?_⟩
    · simpa [wire] using hr
    · simp [wire, Wire.lastCode]
    · simp [hj]
  · rename_i b hb e he
    subst hb
    exact he

theorem answerMd5_wire (i : Nat) (poolPasswd : Bytes) :
    ⦃fun b => ⌜wire b = w⌝⦄ answerMd5 env i poolPasswd
    ⦃post⟨fun x b => ⌜md5Reply env (w.input i) = some x ∧ HasRead w i x.ntohl.val b⌝,
      fun _ _ => ⌜md5Reply env (w.input i) = none⌝⟩⦄ := by
  mvcgen [answerMd5, fromBackend_wire, sendPasswordPacket_wire] with grind [md5Reply]

theorem doMd5_answered (stored : Bytes × PasswordType) :
    ⦃fun s => ⌜Quiet w n s ∧ (R → Ready s.frontend ∧ stored.2 = .plaintext)⌝⦄
    doMd5 env nodes i stored
    ⦃post⟨fun r s => ⌜r.val = 0 ∧ ∃ x, md5Reply env (w.input i) = some x ∧ 0 ≤ x.val ∧
        Answered nodes w n R i x s⌝,
      fun _ _ => ⌜¬ (R ∧ ∃ x, md5Reply env (w.input i) = some x ∧ 0 ≤ x.val)⌝⟩⦄ := by
  have hmain := authenticateAtMain_quiet env nodes w n R
    (authenticateFrontendMd5_quiet env w n (some i) false) i
  have hanswer := fun w pw fe => onBackends_spec (answerMd5_wire env w i pw) fe
  have hkind := fun w fe => onBackends_spec (setAuthKind_wire w i authReqMd5) fe
  have husable : ∀ username e, backendMd5 env username stored = .error e →
      stored.2 ≠ .plaintext := by
    intro username e herror hplain
    obtain ⟨p, type⟩ := stored
    subst hplain
    cases herror
  have hzero : (⟨0, 0, 0, 0⟩ : CInt).val = 0 := rfl
  mvcgen [doMd5, hmain, hanswer, hkind, sendAuthOk, sendAuthRequest, liftExcept, ereportIf]
    with grind [Answered, Quiet, authReqOk]

theorem readCode_wire : ⦃fun b => ⌜wire b = w⌝⦄ readCode i
    ⦃post⟨fun x b => ⌜HasRead w i x.ntohl.val b⌝, fun _ _ => ⌜True⌝⟩⦄ := by
  mvcgen [readCode, fromBackend_wire]
  rename_i b hb code b₁ h₁ t
  subst hb
  refine ⟨by simp [t, wire, Wire.lastCode], fun j hj => ?_⟩
  exact (sameAt_wire (by simp [t, hj])).trans (h₁.2.2 j hj)

theorem readAuthHeader_wire : ⦃fun b => ⌜wire b = w⌝⦄ readAuthHeader i
    ⦃post⟨fun r b => ⌜HasRead w i r.2 b⌝, fun _ _ => ⌜True⌝⟩⦄ := by
  mvcgen [readAuthHeader, fromBackend_wire, fromBackend_wire, readCode_wire, ereportIf] with grind

theorem doScramLoop_wire (username : Bytes) (k : Nat) (authKind len : Int)
    (st : Option nodes.sasl.State) : ⦃fun b => ⌜(wire b).SameExcept w i ∧
      (authKind = authReqOk → (wire b).lastCode i = some authReqOk)⌝⦄
    doScramLoop nodes i username password k authKind len st
    ⦃post⟨fun _ b => ⌜HasRead w i authReqOk b⌝, fun _ _ => ⌜True⌝⟩⦄ := by
  induction k generalizing authKind len st with
  | zero => mvcgen [doScramLoop]
  | succ k ih =>
    mvcgen [doScramLoop, ih, fromBackend_wire, readAuthHeader_wire, setAuthKind_wire, liftExcept,
      ereportIf] with grind

variable {messageLength : Int}

theorem doScram_wire : ⦃fun s => ⌜Quiet w n s⌝⦄ doScram env nodes i messageLength password
    ⦃post⟨fun _ s => ⌜HasRead w i authReqOk s.backend ∧ s.frontend.oks = n⌝,
      fun _ _ => ⌜True⌝⟩⦄ := by
  have hmain := authenticateAtMain_quiet env nodes w n False
    (authenticateFrontendScram_quiet env w n (some i) false) i
  have hloop : ∀ u p k len st w, ⦃fun b => ⌜wire b = w⌝⦄
      doScramLoop nodes i u p k authReqSasl len st
      ⦃post⟨fun _ b => ⌜HasRead w i authReqOk b⌝, fun _ _ => ⌜True⌝⟩⦄ := by
    intro u p k len st w
    refine EStateM.triple_iff.2 fun b hb => EStateM.triple_iff.1
      (doScramLoop_wire nodes w u k authReqSasl len st) b ⟨by simp [hb], ?_⟩
    intro h
    cases h
  have hbackends := fun u p k len st w fe => onBackends_spec (hloop u p k len st w) fe
  mvcgen [doScram, hmain, hbackends] with grind [Quiet]

/-- The backends in `D` have answered with AuthenticationOk. -/
abbrev AllOk (D : Nat → Prop) (s : AuthState) : Prop :=
  (∀ j, D j → (wire s.backend).lastCode j = some authReqOk) ∧ s.frontend.oks = n

theorem doScram_answered (D : Nat → Prop) (i : Nat) (messageLength : Int) (password : Bytes) :
    EStateM.Ends (AllOk n D) (doScram env nodes i messageLength password)
      (AllOk n fun j => D j ∨ j = i) fun _ => True := by
  refine EStateM.triple_iff.2 fun s hs => ⟨fun u s' hrun => ?_, fun _ _ _ => trivial⟩
  obtain ⟨⟨hlast, hothers⟩, hoks⟩ := EStateM.ok_of_triple
    (doScram_wire env nodes (wire s.backend) n) ⟨rfl, hs.2⟩ hrun
  refine ⟨fun j hj => ?_, hoks⟩
  by_cases hji : j = i
  · rw [hji, hlast]
  · rw [hothers.lastCode_eq hji]
    exact hs.1 j (hj.resolve_right hji)

variable {is : List Nat}

theorem scramBackendLoop_answered (D : Nat → Prop) (messageLength : Int) (password : Bytes)
    (is : List Nat) :
    EStateM.Ends (AllOk n D) (scramBackendLoop env nodes messageLength password is)
      (AllOk n fun j => D j ∨ j ∈ is) fun _ => True := by
  induction is generalizing D with
  | nil =>
    mvcgen [scramBackendLoop]
    grind
  | cons i is ih =>
    have hturn := doScram_answered env nodes n D i messageLength password
    mvcgen [scramBackendLoop, hturn, ih] with grind

/-- **The kind of authentication that is asked for.**  Each backend has asked for the kind that
is returned, or for none at all. -/
theorem poolReadAll_wire (mismatch : Ereport) (hnodup : is.Nodup) (data0 data : CInt) :
    ⦃fun b => ⌜wire b = w⌝⦄ poolReadAll nodes readCode mismatch is data0 data
    ⦃post⟨fun r b => ⌜(∀ j, j ∉ is → (wire b).lastCode j = w.lastCode j) ∧
        (∀ i ∈ is, (wire b).lastCode i = some data0.ntohl.val ∨
          (wire b).lastCode i = some r.ntohl.val) ∧ (nodes.main ∉ is → data = data0 → r = data0)⌝,
      fun _ _ => ⌜True⌝⟩⦄ := by
  induction is generalizing data0 data w with
  | nil =>
    mvcgen [poolReadAll]
    grind
  | cons i is ih =>
    have hi := (nodup_cons.1 hnodup).1
    mvcgen [poolReadAll, readCode_wire, ih, ereportIf] with grind [Wire.SameExcept.lastCode_eq]

/-! ## All backends -/

theorem backendLoop_cons_apply (failed : Ereport) (authkind : CInt) (s : AuthState) :
    backendLoop doAuth failed (i :: is) authkind s = match doAuth i s with
      | .ok r s' => if r.val < 0 then .error failed s' else backendLoop doAuth failed is r s'
      | .error e s' => .error e s' := by
  change EStateM.bind (doAuth i) _ s = _
  unfold EStateM.bind
  cases doAuth i s with
  | error e s' => rfl
  | ok r s' =>
    by_cases hr : r.val < 0
    · simp [ereportIf, hr, bind, EStateM.bind, throw, throwThe, MonadExceptOf.throw, EStateM.throw]
    · simp [ereportIf, hr, bind, EStateM.bind, pure, EStateM.pure]

/-- What the loop over the backends `is` leaves behind if it ends without an error: no reply
is negative, and the result is the one of the last turn.  The replies are `c`, and a turn
returns `ret x` when the reply is `x`. -/
structure Ended (c : Nat → Option CInt) (ret : CInt → CInt) (is : List Nat) (authkind r : CInt)
    (s : AuthState) : Prop where
  answers : ∀ i ∈ is, ∃ x, c i = some x ∧ 0 ≤ x.val ∧
    (wire s.backend).lastCode i = some x.ntohl.val
  others : ∀ j, j ∉ is → (wire s.backend).SameAt w j
  oks : s.frontend.oks = n + (if nodes.main ∈ is ∧ c nodes.main = some ⟨0, 0, 0, 0⟩ then 1 else 0)
  result : some r = is.getLast?.elim (some authkind) fun i => (c i).map ret

variable {nodes w n R} in
/-- One more node has answered. -/
theorem Ended.cons {c : Nat → Option CInt} {ret : CInt → CInt} {i : Nat} {is : List Nat}
    {x authkind r : CInt} {s s' : AuthState} (hnodup : (i :: is).Nodup) (hx : c i = some x)
    (hpos : 0 ≤ x.val) (hanswered : Answered nodes w n R i x s)
    (h : Ended nodes (wire s.backend) s.frontend.oks c ret is (ret x) r s') :
    Ended nodes w n c ret (i :: is) authkind r s' := by
  obtain ⟨hlast, hothers, hoks, -⟩ := hanswered
  have hi : i ∉ is := (nodup_cons.1 hnodup).1
  refine ⟨?_, ?_, ?_, ?_⟩
  · intro j hj
    rcases mem_cons.1 hj with rfl | hj
    · refine ⟨x, hx, hpos, ?_⟩
      rw [Wire.lastCode, (h.others j hi).2]
      exact hlast
    · exact h.answers j hj
  · intro j hj
    rw [mem_cons, not_or] at hj
    obtain ⟨hji, hjis⟩ := hj
    exact (h.others j hjis).trans (hothers j hji)
  · -- the main node is the one whose turn it was, or comes later
    rw [h.oks, hoks]
    by_cases hmain : i = nodes.main
    · subst hmain
      simp [hi, hx, CInt.val_eq_zero_iff]
    · simp [hmain, Ne.symm hmain]
  · rw [h.result]
    cases is with
    | nil => simp [hx]
    | cons j is => rfl

/-- **The loop over the backends.**  It ends in an error only if there is a reply that is
negative or none at all, or the client has to be asked. -/
theorem backendLoop_answered (failed : Ereport) (hret : ∀ x, 0 ≤ x.val → 0 ≤ (ret x).val)
    (hbody : ∀ w n i, ⦃fun s => ⌜Prepared w n R s⌝⦄ doAuth i
      ⦃post⟨fun r s => ⌜∃ x, reply (w.input i) = some x ∧ r = ret x ∧ (0 ≤ r.val → 0 ≤ x.val) ∧
          Answered nodes w n R i x s⌝,
        fun _ _ => ⌜¬ (R ∧ ∃ x, reply (w.input i) = some x ∧ 0 ≤ x.val)⌝⟩⦄) (c : Nat → Option CInt)
    (hnodup : is.Nodup) (authkind : CInt) (hc : ∀ i ∈ is, reply (w.input i) = c i) :
    ⦃fun s => ⌜Prepared w n R s⌝⦄ backendLoop doAuth failed is authkind
    ⦃post⟨fun r s => ⌜Ended nodes w n c ret is authkind r s⌝,
      fun _ _ => ⌜¬ (R ∧ ∀ i ∈ is, ∃ x, c i = some x ∧ 0 ≤ x.val)⌝⟩⦄ := by
  rw [EStateM.triple_iff]
  induction is generalizing authkind w n with
  | nil =>
    rintro s ⟨hquiet, -⟩
    refine ⟨?_, fun _ _ h => nomatch h⟩
    intro r s' hrun
    cases hrun
    exact ⟨by simp, fun j _ => hquiet.wire ▸ ⟨rfl, rfl⟩, by simp [hquiet.oks], rfl⟩
  | cons i is ih =>
    intro s hs
    rw [backendLoop_cons_apply]
    obtain ⟨hok, herror⟩ := EStateM.triple_iff.1 (hbody w n i) s hs
    have hci := hc i mem_cons_self
    cases hrun : doAuth i s with
    | error e s' =>
      refine ⟨fun _ _ h => (nomatch h), ?_⟩
      rintro _ _ - ⟨hready, hgood⟩
      exact herror e s' hrun ⟨hready, hci ▸ hgood i mem_cons_self⟩
    | ok r s' =>
      obtain ⟨x, hreply, rfl, hpos, hanswered⟩ := hok r s' hrun
      have hx : c i = some x := hci.symm.trans hreply
      by_cases hneg : (ret x).val < 0
      · refine ⟨fun _ _ h => by simp [hneg] at h, ?_⟩
        rintro _ _ - ⟨-, hgood⟩
        obtain ⟨y, hy, hypos⟩ := hgood i mem_cons_self
        obtain rfl : x = y := Option.some.inj (hx.symm.trans hy)
        exact absurd (hret x hypos) (by omega)
      · have hsame : ∀ j ∈ is, reply ((wire s'.backend).input j) = c j := by
          intro j hj
          have hji : j ≠ i := fun h => (nodup_cons.1 hnodup).1 (h ▸ hj)
          rw [(hanswered.2.1 j hji).1]
          exact hc j (mem_cons_of_mem _ hj)
        obtain ⟨hok', herror'⟩ := ih (wire s'.backend) s'.frontend.oks
          (nodup_cons.1 hnodup).2 (ret x) hsame s' ⟨⟨rfl, rfl⟩, hanswered.2.2.2⟩
        simp only [hneg, if_false]
        constructor
        · intro r' s'' hrun'
          exact (hok' r' s'' hrun').cons hnodup hx (hpos (by omega)) hanswered
        · rintro e s'' hrun' ⟨hready, hgood⟩
          exact herror' e s'' hrun' ⟨hready, fun j hj => hgood j (mem_cons_of_mem _ hj)⟩

/-! ## The branches -/

/-- None of the replies makes `pool_do_auth` give up. -/
def Unnoticed (reply : Bytes → Option CInt) (x : Wire) : Prop :=
  ∀ i ∈ nodes.valid, ∃ c, reply (x.input i) = some c ∧ 0 ≤ c.val

theorem clearTextLoop_answered (authkind : CInt) : ⦃fun s => ⌜Prepared w n R s⌝⦄
    clearTextLoop env nodes nodes.valid authkind
    ⦃post⟨fun r s => ⌜Ended nodes w n (fun i => passwordReply env (w.input i)) id nodes.valid
        authkind r s⌝, fun _ _ => ⌜¬ (R ∧ Unnoticed nodes (passwordReply env) w)⌝⟩⦄ := by
  refine backendLoop_answered nodes w n R _ (fun _ h => h) ?_ _ nodes.nodup _ fun _ _ => rfl
  intro w n i
  refine EStateM.triple_mono (doClearTextPassword_answered env nodes w n R) ?_ ?_
  · rintro x s ⟨hreply, hanswered⟩
    exact ⟨x, hreply, rfl, fun h => h, hanswered⟩
  · rintro e s hnot ⟨hready, x, hx, -⟩
    exact hnot ⟨hready, by rw [hx]; rfl⟩

theorem md5Loop_answered (stored : Bytes × PasswordType) (authkind : CInt) :
    ⦃fun s => ⌜Prepared w n R s ∧ (R → stored.2 = .plaintext)⌝⦄
    md5Loop env nodes stored nodes.valid authkind
    ⦃post⟨fun r s => ⌜Ended nodes w n (fun i => md5Reply env (w.input i)) (fun _ => ⟨0, 0, 0, 0⟩)
        nodes.valid authkind r s⌝, fun _ _ => ⌜¬ (R ∧ Unnoticed nodes (md5Reply env) w)⌝⟩⦄ := by
  by_cases hstored : R → stored.2 = .plaintext
  · refine EStateM.triple_iff.2 fun s hs => EStateM.triple_iff.1 (backendLoop_answered nodes w n R _
      (fun _ _ => by decide) ?_ _ nodes.nodup _ fun _ _ => rfl) s hs.1
    intro w n i
    refine EStateM.triple_iff.2 fun s hs => ?_
    obtain ⟨hok, herror⟩ := EStateM.triple_iff.1 (doMd5_answered env nodes w n R stored) s
      ⟨hs.1, fun h => ⟨hs.2 h, hstored h⟩⟩
    refine ⟨?_, herror⟩
    intro r s' hrun
    obtain ⟨hzero, x, hreply, hpos, hanswered⟩ := hok r s' hrun
    exact ⟨x, hreply, (CInt.val_eq_zero_iff r).1 hzero, fun _ => hpos, hanswered⟩
  · exact EStateM.triple_iff.2 fun s hs => absurd hs.2 hstored

theorem md5Branch_answered (authkind : CInt) :
    ⦃fun s => ⌜Prepared w n R s⌝⦄
    (do
      let stored ← liftExcept (md5BranchPassword (← branchPassword env nodes "md5"))
      md5Loop env nodes stored nodes.valid authkind : AuthM CInt)
    ⦃post⟨fun r s => ⌜Ended nodes w n (fun i => md5Reply env (w.input i)) (fun _ => ⟨0, 0, 0, 0⟩)
        nodes.valid authkind r s⌝,
      fun _ _ => ⌜¬ (R ∧ Unnoticed nodes (md5Reply env) w)⌝⟩⦄ := by
  have hpassword := branchPassword_quiet env nodes w n R
  have husable : ∀ r : Option (Bytes × PasswordType), r.map Prod.snd = some .plaintext →
      ∃ p, r = some (p, .plaintext) ∧ md5BranchPassword r = .ok (p, .plaintext) := by
    rintro (_ | ⟨p, type⟩) h
    · cases h
    · cases h
      exact ⟨p, rfl, rfl⟩
  mvcgen [hpassword, md5Loop_answered, liftExcept] with grind

theorem scramBranch_answered :
    ⦃fun s => ⌜Quiet w n s⌝⦄
    (do
      let password ← liftExcept (scramBranchPassword env (← branchPassword env nodes "SCRAM"))
      scramBackendLoop env nodes messageLength password nodes.valid
      sendAuthOk
      return ⟨0, 0, 0, 0⟩ : AuthM CInt)
    ⦃post⟨fun _ s => ⌜(∀ i ∈ nodes.valid, (wire s.backend).lastCode i = some authReqOk) ∧
        s.frontend.oks = n + 1⌝,
      fun _ _ => ⌜True⌝⟩⦄ := by
  have hpassword := branchPassword_quiet env nodes w n False
  have hloop := scramBackendLoop_answered env nodes n fun _ => False
  mvcgen [hpassword, hloop, sendAuthOk, sendAuthRequest, liftExcept] with grind [Quiet, authReqOk]

theorem readAuthRequest_ok : ⦃fun _ => ⌜True⌝⦄ readAuthRequest env nodes
    ⦃post⟨fun r b => ⌜r.2.ntohl.val = authReqOk →
        ∀ i ∈ nodes.valid, (wire b).lastCode i = some authReqOk⌝, fun _ _ => ⌜True⌝⟩⦄ := by
  have hkind := fun w mismatch => poolReadAll_wire nodes w mismatch nodes.nodup
  have htriv : ∀ {α : Type} (p : BackendM α),
      ⦃fun _ => ⌜True⌝⦄ p ⦃post⟨fun _ _ => ⌜True⌝, fun _ _ => ⌜True⌝⟩⦄ :=
    fun p => EStateM.triple_iff.2 fun _ _ => ⟨fun _ _ _ => trivial, fun _ _ _ => trivial⟩
  have hread := fun n => htriv (readKindLoop nodes n)
  have hlength := htriv (poolReadMessageLength nodes)
  have hzero : (⟨0, 0, 0, 0⟩ : CInt).ntohl.val = authReqOk := rfl
  mvcgen [readAuthRequest, hread, hlength, poolReadInt, hkind, ereportIf] with grind

theorem trustBranch_answered (authkind : CInt) :
    ⦃fun s => ⌜Quiet w n s⌝⦄
    (do
      sendAuthOk
      onBackends (setAuthKind nodes.main authReqOk)
      return authkind : AuthM CInt)
    ⦃post⟨fun _ s => ⌜wire s.backend = w ∧ s.frontend.oks = n + 1⌝, fun _ _ => ⌜True⌝⟩⦄ := by
  have hkind := fun w fe => onBackends_spec (setAuthKind_wire w nodes.main authReqOk) fe
  mvcgen [sendAuthOk, sendAuthRequest, hkind] with grind [Quiet, authReqOk]

/-! ## The result -/

/-- The backend whose turn is the last. -/
def Nodes.last : Nat := nodes.valid.getLast (ne_nil_of_mem nodes.main_mem)

/-- The replies of the backends to their password packets can be relied on: if none of them
makes `pool_do_auth` give up, and, in the clear-text exchange, the last one is
AuthenticationOk, then all of them are. -/
structure Truthful (kind : Int) (x : Wire) : Prop where
  clearText : kind = authReqPassword → Unnoticed nodes (passwordReply env) x →
    passwordReply env (x.input nodes.last) = some ⟨0, 0, 0, 0⟩ →
    ∀ i ∈ nodes.valid, passwordReply env (x.input i) = some ⟨0, 0, 0, 0⟩
  md5 : kind = authReqMd5 → Unnoticed nodes (md5Reply env) x →
    ∀ i ∈ nodes.valid, md5Reply env (x.input i) = some ⟨0, 0, 0, 0⟩

/-- All the backends have accepted the session, and the client has been told once more. -/
def Accepted (s : AuthState) : Prop :=
  (∀ i ∈ nodes.valid, (wire s.backend).lastCode i = some authReqOk) ∧ s.frontend.oks = n + 1

variable {nodes w n} {c : Nat → Option CInt} {authkind r : CInt} {s : AuthState}

theorem Ended.accepted (h : Ended nodes w n c ret nodes.valid authkind r s)
    (hc : ∀ i ∈ nodes.valid, c i = some ⟨0, 0, 0, 0⟩) : Accepted nodes n s := by
  refine ⟨fun i hi => ?_, ?_⟩
  · obtain ⟨x, hx, -, hlast⟩ := h.answers i hi
    obtain rfl := Option.some.inj ((hc i hi).symm.trans hx)
    exact hlast
  · rw [h.oks, if_pos ⟨nodes.main_mem, hc _ nodes.main_mem⟩]

theorem Ended.replies (h : Ended nodes w n c ret nodes.valid authkind r s)
    (haccepted : Accepted nodes n s) : ∀ i ∈ nodes.valid, c i = some ⟨0, 0, 0, 0⟩ := by
  intro i hi
  obtain ⟨x, hx, -, hlast⟩ := h.answers i hi
  have hzero : x.ntohl.val = 0 := Option.some.inj (hlast.symm.trans (haccepted.1 i hi))
  rw [hx, CInt.ntohl_eq_zero ((CInt.val_eq_zero_iff _).1 hzero)]

theorem Ended.last (h : Ended nodes w n c ret nodes.valid authkind r s) :
    (c nodes.last).map ret = some r := by
  rw [h.result, List.getLast?_eq_getLast_of_ne_nil (ne_nil_of_mem nodes.main_mem)]
  rfl

variable {env} {backend : Backends} {kind : CInt} {s' : AuthState} {fe : Frontend} {len : Int}

theorem poolDoAuth_eq_ok : poolDoAuth env nodes ⟨fe, backend⟩ = .ok () s' ↔ ∃ len kind b r,
      readAuthRequest env nodes backend = .ok (len, kind) b ∧
      authBranch env nodes len kind ⟨fe, b⟩ = .ok r s' ∧ r.val = 0 := by
  simp only [poolDoAuth, EStateM.bind_eq_ok, ereportIf_apply_eq_ok, not_not]
  constructor
  · rintro ⟨⟨len, kind⟩, ⟨fe₁, b⟩, hrequest, r, s₁, hbranch, hzero, rfl⟩
    obtain ⟨hrequest, rfl⟩ := onBackends_eq_ok.1 hrequest
    exact ⟨len, kind, b, r, hrequest, hbranch, hzero⟩
  · rintro ⟨len, kind, b, r, hrequest, hbranch, hzero⟩
    exact ⟨(len, kind), ⟨fe, b⟩, onBackends_eq_ok.2 ⟨hrequest, rfl⟩, r, s', hbranch, hzero, rfl⟩

/-- Each branch accepts only if all the nodes have. -/
theorem authBranch_accepted (hok : kind.ntohl.val = authReqOk →
      ∀ i ∈ nodes.valid, (wire s.backend).lastCode i = some authReqOk)
    (htruthful : Truthful env nodes kind.ntohl.val (wire s.backend))
    (hrun : authBranch env nodes len kind s = .ok r s') (hzero : r.val = 0) :
    Accepted nodes s.frontend.oks s' := by
  have hquiet : Quiet (wire s.backend) s.frontend.oks s := ⟨rfl, rfl⟩
  have hready : False → Ready s.frontend := False.elim
  obtain rfl : r = ⟨0, 0, 0, 0⟩ := (CInt.val_eq_zero_iff r).1 hzero
  unfold authBranch at hrun
  split at hrun
  · next htrust =>
    obtain ⟨hwire, hoks⟩ := EStateM.ok_of_triple (trustBranch_answered nodes _ _ _) hquiet hrun
    exact ⟨fun i hi => hwire ▸ hok htrust i hi, hoks⟩
  split at hrun
  · next hkind =>
    have hended := EStateM.ok_of_triple (clearTextLoop_answered env nodes _ _ False _)
      ⟨hquiet, hready⟩ hrun
    have hlast := hended.last
    rw [Option.map_id] at hlast
    refine hended.accepted (htruthful.clearText hkind ?_ hlast)
    exact fun i hi => (hended.answers i hi).imp fun x hx => ⟨hx.1, hx.2.1⟩
  split at hrun
  · next hkind =>
    have hended := EStateM.ok_of_triple (md5Branch_answered env nodes _ _ False _)
      ⟨hquiet, hready⟩ hrun
    refine hended.accepted (htruthful.md5 hkind ?_)
    exact fun i hi => (hended.answers i hi).imp fun x hx => ⟨hx.1, hx.2.1⟩
  split at hrun
  · exact EStateM.ok_of_triple (scramBranch_answered env nodes _ _) hquiet hrun
  · cases hrun

/-- With a client that is ready, replies that are not noticed do not stop the clear-text
branch. -/
theorem authBranch_clearText (hready : Ready s.frontend) (hkind : kind.ntohl.val = authReqPassword)
    (hreplies : Unnoticed nodes (passwordReply env) (wire s.backend)) :
    ∃ r s', authBranch env nodes len kind s = .ok r s' ∧ Ended nodes (wire s.backend) s.frontend.oks
        (fun i => passwordReply env ((wire s.backend).input i)) id nodes.valid kind.ntohl r s' := by
  have hbranch : authBranch env nodes len kind =
      clearTextLoop env nodes nodes.valid kind.ntohl := by
    simp [authBranch, hkind, authReqOk, authReqPassword]
  obtain ⟨hok, herror⟩ := EStateM.triple_iff.1 (clearTextLoop_answered env nodes (wire s.backend)
    s.frontend.oks True kind.ntohl) s ⟨⟨rfl, rfl⟩, fun _ => hready⟩
  rw [hbranch]
  cases hrun : clearTextLoop env nodes nodes.valid kind.ntohl s with
  | ok r s' => exact ⟨r, s', rfl, hok r s' hrun⟩
  | error e s' => exact absurd ⟨trivial, hreplies⟩ (herror e s' hrun)

theorem authBranch_md5 (hready : Ready s.frontend) (hkind : kind.ntohl.val = authReqMd5)
    (hreplies : Unnoticed nodes (md5Reply env) (wire s.backend)) :
    ∃ r s', authBranch env nodes len kind s = .ok r s' ∧ Ended nodes (wire s.backend) s.frontend.oks
        (fun i => md5Reply env ((wire s.backend).input i)) (fun _ => ⟨0, 0, 0, 0⟩) nodes.valid
        kind.ntohl r s' := by
  have hbranch : authBranch env nodes len kind = (do
      let stored ← liftExcept (md5BranchPassword (← branchPassword env nodes "md5"))
      md5Loop env nodes stored nodes.valid kind.ntohl) := by
    simp [authBranch, hkind, authReqOk, authReqPassword, authReqMd5]
  obtain ⟨hok, herror⟩ := EStateM.triple_iff.1 (md5Branch_answered env nodes (wire s.backend)
    s.frontend.oks True kind.ntohl) s ⟨⟨rfl, rfl⟩, fun _ => hready⟩
  rw [← hbranch] at hok herror
  cases hrun : authBranch env nodes len kind s with
  | ok r s' => exact ⟨r, s', rfl, hok r s' hrun⟩
  | error e s' => exact absurd ⟨trivial, hreplies⟩ (herror e s' hrun)

/-- A client that has been authenticated before the backends are talked to. -/
def readyFrontend : Frontend where
  username := ascii "alice"
  input := []
  sent := []
  authKind := authReqPassword
  pwdSize := 6
  password := ascii "secret"
  passwordType := .plaintext
  frontendAuthenticated := true
  passwordMapping := some ⟨ascii "secret", secret_no_nul⟩
  poolHba := none
  certCn := none

theorem ready_readyFrontend : Ready readyFrontend := ⟨rfl, by decide, _, rfl, by decide⟩

variable (env nodes) in
/-- **A session that `pool_do_auth` accepts has been accepted by every backend**, whatever the
client sends, if and only if the replies of the backends can be relied on. -/
theorem session_accepted_iff (backend : Backends) :
    (∀ fe s', poolDoAuth env nodes ⟨fe, backend⟩ = .ok () s' → Accepted nodes fe.oks s') ↔
    ∀ len kind b, readAuthRequest env nodes backend = .ok (len, kind) b →
      Truthful env nodes kind.ntohl.val (wire b) := by
  constructor
  · -- a client that is ready gets a session that replies which are not truthful have not accepted
    intro haccepted len kind b hrequest
    have hrun : ∀ r s', authBranch env nodes len kind ⟨readyFrontend, b⟩ = .ok r s' → r.val = 0 →
        Accepted nodes readyFrontend.oks s' := fun r s' hbranch hzero =>
      haccepted readyFrontend s' (poolDoAuth_eq_ok.2 ⟨len, kind, b, r, hrequest, hbranch, hzero⟩)
    constructor
    · intro hkind hreplies hlast
      obtain ⟨r, s', hbranch, hended⟩ :=
        authBranch_clearText (s := ⟨readyFrontend, b⟩) ready_readyFrontend hkind hreplies
      have hr := hended.last
      rw [Option.map_id] at hr
      obtain rfl := Option.some.inj (hlast.symm.trans hr)
      exact hended.replies (hrun _ s' hbranch rfl)
    · intro hkind hreplies
      obtain ⟨r, s', hbranch, hended⟩ :=
        authBranch_md5 (s := ⟨readyFrontend, b⟩) ready_readyFrontend hkind hreplies
      obtain ⟨x, -, rfl⟩ := Option.map_eq_some_iff.1 hended.last
      exact hended.replies (hrun _ s' hbranch rfl)
  · intro htruthful fe s' hrun
    obtain ⟨len, kind, b, r, hrequest, hbranch, hzero⟩ := poolDoAuth_eq_ok.1 hrun
    have hok := EStateM.ok_of_triple (readAuthRequest_ok env nodes) trivial hrequest
    exact authBranch_accepted (s := ⟨fe, b⟩) hok (htruthful len kind b hrequest) hbranch hzero

/-- A backend that asks for an MD5 password and then replies with the code 1, which is not
AuthenticationOk. -/
def refusingBackend : Backend where
  input := ascii "R" ++ [0, 0, 0, 12] ++ [0, 0, 0, 5] ++ ascii "salt" ++
    ascii "R" ++ [0, 0, 0, 8] ++ [0, 0, 0, 1]
  sent := []
  codes := []
  authKind := 0
  pwdSize := 0
  password := []
  passwordType := .unknown

/-- **The session starts although the only backend has refused it**, and the client is not told
that it is authenticated. -/
theorem refused_session_starts :
    let s : AuthState := ⟨readyFrontend, fun _ => refusingBackend⟩
    (poolDoAuth aliceEnv oneNode).returns s ∧
    (wire (EStateM.final (poolDoAuth aliceEnv oneNode) s).backend).lastCode 0 = some 1 ∧
    (EStateM.final (poolDoAuth aliceEnv oneNode) s).frontend.oks = 0 := by
  decide +kernel

end PgBalancer.Auth
