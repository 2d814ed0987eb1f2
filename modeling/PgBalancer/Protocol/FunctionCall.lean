import PgBalancer.Rewrite.BindMessage

/-!
# Forwarding a function call

A `FunctionCall` message of protocol version 2 carries no length: the function forwards it field by
field to every valid backend, as it reads it from the frontend.  The loops over the backends use the
variable that counts the arguments.

* `function_call_forwarded_iff` — **a call is forwarded as it was sent if and only if it has at most
  one argument, and that is not refused**, as a NULL is, or an empty value that is the first to be
  read on the connection.
-/

namespace PgBalancer.Protocol

open NetworkOrder
open Rewrite (paramBytes ntohl)

/-- Why a call is not forwarded. -/
inductive CallError where
  /-- the frontend has sent less -/
  | eof
  /-- `invalid data size` of `pool_write` -/
  | invalidSize
  /-- `memmove` with a negative size, in `pool_read2` -/
  | badMove
  /-- `pool_read2` is refused the memory -/
  | badAlloc
  /-- `pool_read2` returns NULL: the FATAL error of `FunctionCall` -/
  | nullBuffer
  deriving DecidableEq

/-- What the call finds. -/
structure CallEnv where
  /-- `NUM_BACKENDS` -/
  numBackends : Nat
  /-- `VALID_BACKEND` -/
  valid : Nat → Bool
  /-- some of the bytes that are to be read have been received already -/
  pending : List UInt8 → Bool
  /-- there is memory for an argument of this length -/
  grants : Nat → Bool
  /-- `buf2` of the frontend is not NULL: something has been read into it -/
  buf2 : Bool

/-- What has been written to the backends. -/
abbrev Written := Nat → List UInt8

namespace CallEnv

variable (env : CallEnv)

/-- Some backend is valid. -/
def hasValid : Bool := (List.range env.numBackends).any env.valid

/-- A loop over the backends; it leaves the index at `NUM_BACKENDS`. -/
def write (data : List UInt8) (sent : Written) : Written := fun i =>
  if i < env.numBackends ∧ env.valid i then sent i ++ data else sent i

/-- The loop over the arguments, from the index `i` on.  `pool_read2` gets memory only if bytes are
pending or wanted; once it has returned, `buf2` is not NULL. -/
def argumentLoop (argn : Int) (i : Nat) (buf2 : Bool) (input : List UInt8) (sent : Written) :
    Except CallError (List UInt8 × Written) :=
  if (i : Int) < argn then
    if input.length < 4 then .error .eof
    else
      let len := ntohl (input.take 4)
      let rest := input.drop 4
      let sent := env.write (input.take 4) sent
      if len < 0 then
        if env.pending rest then .error .badMove
        else if buf2 = false then .error .nullBuffer
        else if env.hasValid then .error .invalidSize
        else argumentLoop argn (env.numBackends + 1) true rest sent
      else if len = 0 ∧ env.pending rest = false ∧ buf2 = false then .error .nullBuffer
      else if env.grants len.toNat = false then .error .badAlloc
      else if rest.length < len then .error .eof
      else
        argumentLoop argn (env.numBackends + 1) true (rest.drop len.toNat)
          (env.write (rest.take len.toNat) sent)
  else .ok (input, sent)
termination_by input.length
decreasing_by all_goals simp only [List.length_drop]; omega

/-- `FunctionCall`: what is left of the input, and what has been written. -/
def functionCall (input : List UInt8) : Except CallError (List UInt8 × Written) :=
  if input.length < 10 then .error .eof
  else
    env.argumentLoop (ntohl ((input.drop 6).take 4)) 0 env.buf2 (input.drop 10)
      (env.write ((input.drop 6).take 4) (env.write ((input.drop 2).take 4)
        (env.write (input.take 2) (env.write [70] fun _ => []))))

/-- Why an argument cannot be forwarded, if `rest` follows its length. -/
def refusal (arg : Option (List UInt8)) (buf2 : Bool) (rest : List UInt8) : Option CallError :=
  match arg with
  | some d =>
    if d = [] ∧ env.pending rest = false ∧ buf2 = false then some .nullBuffer
    else if env.grants d.length then none else some .badAlloc
  | none =>
    if env.pending rest then some .badMove
    else if buf2 = false then some .nullBuffer
    else if env.hasValid then some .invalidSize else none

end CallEnv

/-- A call, as a frontend sends it. -/
structure CallRequest where
  dummy : List UInt8
  oid : List UInt8
  args : List (Option (List UInt8))
  length_dummy : dummy.length = 2
  length_oid : oid.length = 4
  args_count : args.length < 2 ^ 31
  args_small : ∀ d, some d ∈ args → d.length < 2 ^ 31

/-- The message behind its kind. -/
def CallRequest.bytes (r : CallRequest) : List UInt8 :=
  r.dummy ++ (r.oid ++ (beBytes 4 r.args.length ++ r.args.flatMap paramBytes))

/-- **The property**: the arguments are all read, nothing else is, and each valid backend has
received the message. -/
def Forwarded (env : CallEnv) (r : CallRequest) (rest : List UInt8) : Prop :=
  ∃ sent, env.functionCall (r.bytes ++ rest) = .ok (rest, sent) ∧
    ∀ i < env.numBackends, env.valid i = true → sent i = 70 :: r.bytes

namespace CallEnv

variable {env : CallEnv} {argn : Int} {i : Nat} {buf2 : Bool} {rest : List UInt8} {sent : Written}

theorem argumentLoop_stop (h : ¬ (i : Int) < argn) :
    env.argumentLoop argn i buf2 rest sent = .ok (rest, sent) := by
  rw [argumentLoop, if_neg h]

theorem write_write (data data' : List UInt8) :
    env.write data' (env.write data sent) = env.write (data ++ data') sent := by
  funext i
  unfold write
  split_ifs <;> simp

theorem ntohl_beBytes {n : Nat} (h : n < 2 ^ 31) : ntohl (beBytes 4 n) = n := by
  rw [ntohl, ofBe_beBytes_of_lt (by omega), CBuffer.int32_eq_self (by omega) (by omega)]

theorem argumentLoop_arg (arg : Option (List UInt8)) (h : (i : Int) < argn)
    (hsmall : ∀ d, arg = some d → d.length < 2 ^ 31) :
    env.argumentLoop argn i buf2 (paramBytes arg ++ rest) sent =
      match env.refusal arg buf2 rest with
      | some e => .error e
      | none => env.argumentLoop argn (env.numBackends + 1) true rest
        (env.write (paramBytes arg) sent) := by
  rw [argumentLoop, if_pos h]
  cases arg with
  | none =>
    have hlen : ntohl (paramBytes none) < 0 := by decide
    have hfour : (paramBytes none).length = 4 := length_beBytes _ _
    cases hpending : env.pending rest <;> cases buf2 <;> cases hvalid : env.hasValid <;>
      simp [hfour, hlen, refusal, hpending, hvalid]
  | some d =>
    by_cases hnull : d = [] ∧ env.pending rest = false ∧ buf2 = false
    · obtain ⟨rfl, hpending, rfl⟩ := hnull
      simp [paramBytes, ntohl_beBytes, refusal, hpending]
    · have hread : ¬ (d = [] ∧ env.pending (d ++ rest) = false ∧ buf2 = false) := by
        rintro ⟨rfl, hrest⟩
        exact hnull ⟨rfl, hrest⟩
      cases hgrants : env.grants d.length <;>
        simp [paramBytes, ntohl_beBytes (hsmall d rfl), not_lt_of_ge, refusal, hgrants, write_write,
          hnull, hread]

/-- **The loop never ends** once the index is beyond the backends and not beyond the arguments. -/
theorem argumentLoop_endless (h : ((env.numBackends + 1 : Nat) : Int) < argn)
    (rest : List UInt8) (sent : Written) (r : List UInt8 × Written) :
    env.argumentLoop argn (env.numBackends + 1) buf2 rest sent ≠ .ok r := by
  induction hn : rest.length using Nat.strong_induction_on generalizing buf2 rest sent with
  | _ n ih =>
    have hshorter : ∀ k, ¬ rest.length < 4 → ((rest.drop 4).drop k).length < n := by
      intro k hlong
      simp only [List.length_drop]
      omega
    rw [argumentLoop, if_pos h]
    dsimp only
    split_ifs with hshort
    · exact nofun
    · exact nofun
    · exact nofun
    · exact nofun
    · exact ih _ (hshorter 0 hshort) _ _ rfl
    · exact nofun
    · exact nofun
    · exact nofun
    · exact ih _ (hshorter _ hshort) _ _ rfl

theorem functionCall_bytes (r : CallRequest) : env.functionCall (r.bytes ++ rest) =
      env.argumentLoop r.args.length 0 env.buf2 (r.args.flatMap paramBytes ++ rest)
        (env.write (beBytes 4 r.args.length) (env.write r.oid (env.write r.dummy
          (env.write [70] fun _ => [])))) := by
  obtain ⟨dummy, oid, args, hdummy, hoid, hcount, -⟩ := r
  match dummy, hdummy, oid, hoid with
  | [a, b], _, [c, d, e, f], _ =>
    simp [functionCall, CallRequest.bytes, ntohl_beBytes hcount]

theorem argumentLoop_next {args : List (Option (List UInt8))} {sent' : Written} :
    env.argumentLoop (args.length + 1 : Nat) (env.numBackends + 1) true
        (args.flatMap paramBytes ++ rest) sent = .ok (rest, sent') ↔ args = [] ∧ sent' = sent := by
  cases args with
  | nil =>
    rw [argumentLoop_stop (by simp)]
    simp [eq_comm]
  | cons a args =>
    simp only [reduceCtorEq, false_and, iff_false]
    by_cases h : ((env.numBackends + 1 : Nat) : Int) < ((a :: args).length + 1 : Nat)
    · exact argumentLoop_endless h _ _ _
    · rw [argumentLoop_stop h]
      intro heq
      have hlen := congrArg List.length (Prod.mk.inj (Except.ok.inj heq)).1
      have hpos : 4 ≤ (paramBytes a).length := by cases a <;> simp [paramBytes]
      simp only [List.flatMap_cons, List.length_append] at hlen
      omega

end CallEnv

/-- **A call is forwarded as it was sent if and only if it has at most one argument, and that is
not refused.**  The loop over the arguments goes on behind the last backend. -/
theorem function_call_forwarded_iff (env : CallEnv) (r : CallRequest) (rest : List UInt8) :
    Forwarded env r rest ↔
      r.args = [] ∨ ∃ arg, r.args = [arg] ∧ env.refusal arg env.buf2 rest = none := by
  unfold Forwarded
  rw [CallEnv.functionCall_bytes]
  simp only [CallEnv.write_write]
  have hwritten : ∀ i < env.numBackends, env.valid i = true → ∀ data,
      env.write data (fun _ => []) i = data := fun i hi hvalid data => if_pos ⟨hi, hvalid⟩
  obtain ⟨dummy, oid, args, hdummy, hoid, hcount, hsmall⟩ := r
  match args with
  | [] =>
    refine iff_of_true ⟨_, CallEnv.argumentLoop_stop (by simp), fun i hi hvalid => ?_⟩ (.inl rfl)
    simp [hwritten i hi hvalid, CallRequest.bytes]
  | arg :: args =>
    simp only [List.length_cons, List.flatMap_cons, List.append_assoc]
    rw [CallEnv.argumentLoop_arg arg (by simp) fun d hd => hsmall d (by simp [hd])]
    constructor
    · rintro ⟨sent, hloop, -⟩
      split at hloop
      · cases hloop
      · rename_i hrefusal
        obtain ⟨rfl, -⟩ := CallEnv.argumentLoop_next.1 hloop
        exact .inr ⟨arg, rfl, hrefusal⟩
    · rintro (h | ⟨_, h, hrefusal⟩)
      · cases h
      · cases h
        simp only [List.flatMap_nil, List.nil_append, hrefusal]
        refine ⟨_, CallEnv.argumentLoop_stop (by simp), fun i hi hvalid => ?_⟩
        simp [hwritten i hi hvalid, CallEnv.write_write, CallRequest.bytes]

/-- Two backends, and an environment that refuses nothing. -/
def twoBackends : CallEnv := ⟨2, fun _ => true, fun _ => false, fun _ => true, false⟩

/-- A call with two arguments of one byte. -/
def twoArguments : CallRequest where
  dummy := [0, 0]
  oid := [0, 0, 0, 1]
  args := [some [65], some [66]]
  length_dummy := rfl
  length_oid := rfl
  args_count := by simp
  args_small := by simp

/-- The second argument is left in the input, as if it were the next message. -/
theorem second_argument_left :
    twoBackends.functionCall (twoArguments.bytes ++ []) = .ok ([0, 0, 0, 1, 66], twoBackends.write
        [70, 0, 0, 0, 0, 0, 1, 0, 0, 0, 2, 0, 0, 0, 1, 65] fun _ => []) ∧
      ¬ Forwarded twoBackends twoArguments [] := by
  have hrun : twoBackends.functionCall (twoArguments.bytes ++ []) = .ok ([0, 0, 0, 1, 66],
      twoBackends.write [70, 0, 0, 0, 0, 0, 1, 0, 0, 0, 2, 0, 0, 0, 1, 65] fun _ => []) := by
    rw [CallEnv.functionCall_bytes]
    simp only [CallEnv.write_write]
    refine (CallEnv.argumentLoop_arg (some [65]) (by decide) (by simp)).trans ?_
    refine (CallEnv.argumentLoop_stop (by decide)).trans ?_
    rw [CallEnv.write_write]
    rfl
  refine ⟨hrun, ?_⟩
  rintro ⟨sent, h, -⟩
  cases hrun.symm.trans h

end PgBalancer.Protocol
