import PgBalancer.Child.ConnectionPool

/-!
# The application name of a client

A client that is given an existing connection may have sent another application name, so the
backends are told with a `SET` command.  The name is pasted between quotes into a buffer of 1024
bytes.

* `application_name_iff` — **the command sets the application name to the name, or to the part of it
  that fits, if and only if the name has no quotes and fits, or its first quote happens to be the
  last byte that fits**.
-/

namespace PgBalancer.Child

open List

/-- The single quote. -/
def quote : UInt8 := 39

/-- The beginning of the command. -/
def setApplicationName : Bytes := ascii "SET application_name TO '"

/-- What `snprintf` leaves in `command_buf`. -/
def commandBuf (name : Bytes) : Bytes := (setApplicationName ++ (name ++ [quote])).take 1023

/-- The loop of `connect_using_existing_connection` over the backends: the commands sent. -/
def applicationNameCommands {n : ℕ} (env : Backends n) (applicationName : Option Bytes) :
    List (Fin n × Bytes) :=
  match applicationName with
  | none => []
  | some name => env.validNodes.map fun i => (i, commandBuf name)

/-- A literal with this value, between its quotes: a quote is written twice, and nothing else has a
meaning (`standard_conforming_strings`). -/
def escaped (value : Bytes) : Bytes := value.flatMap fun c => if c = quote then [c, c] else [c]

/-- The text is one command that sets the name, or what the buffer has left of it, without
quotes. -/
def Sets (text name : Bytes) : Prop :=
  ∃ value, text = setApplicationName ++ (escaped value ++ [quote]) ∧
    (value = name ∨ value <+: name ∧ quote ∉ value ∧ text.length = 1023)

theorem length_escaped (value : Bytes) :
    (escaped value).length = value.length + value.count quote := by
  induction value with
  | nil => rfl
  | cons c value ih =>
    have hcons : escaped (c :: value) = (if c = quote then [c, c] else [c]) ++ escaped value := rfl
    rw [hcons, length_append, ih, length_cons, count_cons]
    split_ifs <;> simp_all <;> omega

theorem escaped_eq_self {value : Bytes} (h : quote ∉ value) : escaped value = value := by
  induction value with
  | nil => rfl
  | cons c value ih =>
    obtain ⟨hc, hvalue⟩ := not_or.1 (mem_cons.not.1 h)
    have hcons : escaped (c :: value) = (if c = quote then [c, c] else [c]) ++ escaped value := rfl
    rw [hcons, if_neg (Ne.symm hc), ih hvalue, singleton_append]

theorem commandBuf_eq (name : Bytes) :
    commandBuf name = setApplicationName ++ (name ++ [quote]).take 998 := by
  rw [commandBuf, take_append, take_of_length_le (by decide)]
  rfl

/-- Which names are set as they were given. -/
theorem sets_iff (name : Bytes) : Sets (commandBuf name) name ↔ quote ∉ name ∧ name.length ≤ 997 ∨
      ∃ x, quote ∉ x ∧ x.length = 997 ∧ name.take 998 = x ++ [quote] := by
  have hlen : setApplicationName.length = 25 := by decide
  constructor
  · rintro ⟨value, htext, hvalue⟩
    rw [commandBuf_eq] at htext hvalue
    have hbody := append_cancel_left htext
    have hbytes := congrArg length hbody
    rw [length_take, length_append, length_append, length_escaped, length_singleton] at hbytes
    rcases hvalue with rfl | ⟨hpre, hquote, hcut⟩
    · exact .inl ⟨count_eq_zero.1 (by omega), by omega⟩
    · rw [escaped_eq_self hquote] at hbody
      rw [length_append, hbody, length_append, length_singleton] at hcut
      rcases le_or_gt name.length 997 with hle | hlt
      · have : value = name := hpre.eq_of_length (by omega)
        exact .inl ⟨this ▸ hquote, hle⟩
      · refine .inr ⟨value, hquote, by omega, ?_⟩
        rw [← hbody, take_append_of_le_length hlt]
  · rintro (⟨hquote, hle⟩ | ⟨x, hquote, hx, htake⟩)
    · refine ⟨name, ?_, .inl rfl⟩
      rw [commandBuf_eq, escaped_eq_self hquote, take_of_length_le]
      rw [length_append, length_singleton]
      omega
    · have hlong : 998 ≤ name.length := by
        have := congrArg length htake
        rw [length_take, length_append, length_singleton] at this
        omega
      have hbuf : commandBuf name = setApplicationName ++ (escaped x ++ [quote]) := by
        rw [commandBuf_eq, escaped_eq_self hquote, take_append_of_le_length hlong, htake]
      refine ⟨x, hbuf, .inr ⟨?_, hquote, ?_⟩⟩
      · exact ((prefix_append x [quote]).trans (htake ▸ take_prefix 998 name))
      · rw [hbuf, escaped_eq_self hquote, length_append, length_append, hx, hlen]
        rfl

/-- **Every backend is told the name of the client** if and only if the name has no quote and fits,
or has its first quote where the buffer ends. -/
theorem application_name_iff {n : ℕ} (env : Backends n) (name : Bytes) :
    (∀ c ∈ applicationNameCommands env (some name), Sets c.2 name) ↔
      quote ∉ name ∧ name.length ≤ 997 ∨
        ∃ x, quote ∉ x ∧ x.length = 997 ∧ name.take 998 = x ++ [quote] := by
  rw [← sets_iff]
  constructor
  · intro h
    refine h (env.main, commandBuf name) (mem_map.2 ⟨env.main, ?_, rfl⟩)
    simp [Backends.validNodes, env.main_valid]
  · intro h c hc
    obtain ⟨i, -, rfl⟩ := mem_map.1 hc
    exact h

/-- A name that ends the literal: what follows is a statement of its own. -/
theorem name_executed :
    commandBuf (ascii "'; DROP TABLE t --") = ascii "SET application_name TO ''; DROP TABLE t --'" ∧
      ¬ Sets (commandBuf (ascii "'; DROP TABLE t --")) (ascii "'; DROP TABLE t --") := by
  refine ⟨by decide, fun h => ?_⟩
  rcases (sets_iff _).1 h with h | ⟨x, -, hx, h⟩
  · exact absurd h (by decide)
  · have := congrArg length h
    rw [length_append, hx] at this
    exact absurd this (by decide)

end PgBalancer.Child
