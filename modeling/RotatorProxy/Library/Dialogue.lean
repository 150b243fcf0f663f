import Mathlib.Data.List.Infix
import Mathlib.Tactic.Common

/-! One side of a conversation over a stream: it sends, and it reads what the other side sends. The
stream arrives in parts that a read may take as a whole, in pieces or together with the next ones; what
the conversation comes to, and where it leaves the stream, does not depend on the parts. -/
namespace RotatorProxy.Library

inductive Dialogue (α ε ρ : Type*)
  | done (result : Except ε ρ)
  | send (message : List α) (next : Dialogue α ε ρ)
  /-- Read exactly so many elements. -/
  | readExact (n : ℕ) (next : List α → Dialogue α ε ρ)
  /-- Read one element, or see the end of the stream. -/
  | readOne (next : Option α → Dialogue α ε ρ)

/-- What a party learns at the end of a stream: the error of reading several elements there, and the
failure that it ends with, if it does not just end. -/
structure Closing (ε : Type*) where
  short : ε
  broken : Option ε

/-- Where a conversation has come to: what it gives, what was sent, and what is left to read. -/
structure Outcome (α ε ρ σ : Type*) where
  result : Except ε ρ
  sent : List α
  rest : σ
  deriving DecidableEq

namespace Outcome
variable {α ε ρ σ τ : Type*}

def prepend (message : List α) (o : Outcome α ε ρ σ) : Outcome α ε ρ σ := { o with sent := message++o.sent }

def mapRest (f : σ → τ) (o : Outcome α ε ρ σ) : Outcome α ε ρ τ := ⟨o.result,o.sent,f o.rest⟩

lemma prepend_mapRest (f : σ → τ) (message : List α) (o : Outcome α ε ρ σ) :
    (o.prepend message).mapRest f=(o.mapRest f).prepend message := rfl

/-- The result, with the rest of the stream. -/
def finish (o : Outcome α ε ρ σ) : Except ε (ρ × σ) := o.result.map fun result => (result,o.rest)

lemma finish_eq_ok {o : Outcome α ε ρ σ} {result : ρ} {rest : σ} :
    o.finish = .ok (result,rest) ↔ o.result = .ok result ∧ o.rest=rest := by
  rw [finish]
  cases o.result with
  | error err => simp [Except.map]
  | ok r => simp [Except.map]

end Outcome

namespace Dialogue
variable {α ε ρ : Type*} (closing : Closing ε)

/-- The conversation with a stream that is there as a whole. -/
def run : Dialogue α ε ρ → List α → Outcome α ε ρ (List α)
  | done result,s => ⟨result,[],s⟩
  | send message next,s => (run next s).prepend message
  | readExact n next,s =>
    if n ≤ s.length then run (next (s.take n)) (s.drop n)
    else ⟨.error (closing.broken.getD closing.short),[],[]⟩
  | readOne next,s =>
    match s with
    | a::s => run (next (some a)) s
    | [] =>
      match closing.broken with
      | some err => ⟨.error err,[],[]⟩
      | none => run (next none) []

/-- Reads until there are so many elements: each takes what has arrived, and leaves what is too much. -/
def takeExact : ℕ → List (List α) → Option (List α × List (List α))
  | 0,parts => some ([],parts)
  | _+1,[] => none
  | n+1,part::parts =>
    if part.length=0 then none
    else if n+1 < part.length then some (part.take (n+1),part.drop (n+1)::parts)
    else (takeExact (n+1-part.length) parts).map fun read => (part++read.1,read.2)

/-- A read of one element. -/
def takeOne : List (List α) → Option (α × List (List α))
  | [] => none
  | []::_ => none
  | [a]::parts => some (a,parts)
  | (a::b::part)::parts => some (a,(b::part)::parts)

/-- The conversation with a stream that arrives in parts. -/
def runParts : Dialogue α ε ρ → List (List α) → Outcome α ε ρ (List (List α))
  | done result,parts => ⟨result,[],parts⟩
  | send message next,parts => (runParts next parts).prepend message
  | readExact n next,parts =>
    match takeExact n parts with
    | some (read,parts) => runParts (next read) parts
    | none => ⟨.error (closing.broken.getD closing.short),[],[]⟩
  | readOne next,parts =>
    match takeOne parts with
    | some (a,parts) => runParts (next (some a)) parts
    | none =>
      match closing.broken with
      | some err => ⟨.error err,[],[]⟩
      | none => runParts (next none) []

/-! Streams in parts -/

/-- A read gives something as long as the stream has not ended. -/
def Arrives (parts : List (List α)) : Prop := ∀ part ∈ parts, part ≠ []

lemma Arrives.tail {part : List α} {parts : List (List α)} (h : Arrives (part::parts)) : Arrives parts :=
  fun p hp => h p (List.mem_cons_of_mem part hp)

theorem takeExact_some {n : ℕ} {parts : List (List α)} (h : Arrives parts) (hlen : n ≤ parts.flatten.length) :
    ∃ rest, takeExact n parts = some (parts.flatten.take n,rest) ∧ rest.flatten=parts.flatten.drop n ∧
      Arrives rest := by
  induction parts generalizing n with
  | nil =>
    obtain rfl : n=0 := by simpa using hlen
    exact ⟨[],rfl,rfl,h⟩
  | cons part parts ih =>
    cases n with
    | zero => exact ⟨part::parts,rfl,rfl,h⟩
    | succ n =>
      have hpart : part.length ≠ 0 := fun h0 => h part List.mem_cons_self (List.length_eq_zero_iff.mp h0)
      rw [List.flatten_cons] at hlen ⊢
      rw [takeExact,if_neg hpart]
      by_cases hmore : n+1 < part.length
      · have hrest : part.drop (n+1) ≠ [] := by
          intro hnil
          have hle := List.drop_eq_nil_iff.mp hnil
          omega
        refine ⟨part.drop (n+1)::parts,?_,?_,?_⟩
        · rw [if_pos hmore,List.take_append_of_le_length (by omega)]
        · rw [List.flatten_cons,List.drop_append_of_le_length (by omega)]
        · intro p hp
          obtain rfl | hp := List.mem_cons.mp hp
          · exact hrest
          · exact h.tail p hp
      · rw [List.length_append] at hlen
        obtain ⟨rest,htake,hflatten,harrives⟩ := ih (n := n+1-part.length) h.tail (by omega)
        refine ⟨rest,?_,?_,harrives⟩
        · rw [if_neg hmore,htake,Option.map_some,List.take_append,List.take_of_length_le (i := n+1) (by omega)]
        · rw [hflatten,List.drop_append,List.drop_of_length_le (i := n+1) (by omega),List.nil_append]

theorem takeExact_none {n : ℕ} {parts : List (List α)} (hlen : parts.flatten.length < n) :
    takeExact n parts = none := by
  induction parts generalizing n with
  | nil =>
    cases n with
    | zero => cases hlen
    | succ n => rfl
  | cons part parts ih =>
    cases n with
    | zero => cases hlen
    | succ n =>
      rw [List.flatten_cons,List.length_append] at hlen
      rw [takeExact]
      split_ifs with hpart hmore
      · rfl
      · omega
      · rw [ih (by omega),Option.map_none]

lemma takeOne_cons {a : α} {s : List α} {parts : List (List α)} (h : Arrives parts)
    (heq : parts.flatten=a::s) : ∃ rest, takeOne parts = some (a,rest) ∧ rest.flatten=s ∧ Arrives rest := by
  cases parts with
  | nil => cases heq
  | cons part parts =>
    match part,h part List.mem_cons_self with
    | [b],_ =>
      obtain ⟨rfl,rfl⟩ := List.cons.inj heq
      exact ⟨parts,rfl,rfl,h.tail⟩
    | b::d::part,_ =>
      obtain ⟨rfl,rfl⟩ := List.cons.inj heq
      refine ⟨(d::part)::parts,rfl,rfl,fun p hp => ?_⟩
      obtain rfl | hp := List.mem_cons.mp hp
      · exact List.cons_ne_nil d part
      · exact h.tail p hp

lemma takeOne_nil {parts : List (List α)} (h : Arrives parts) (heq : parts.flatten=[]) :
    takeOne parts = none := by
  cases parts with
  | nil => rfl
  | cons part parts => exact absurd (List.append_eq_nil_iff.mp heq).1 (h part List.mem_cons_self)

/-- The parts of the stream do not matter. -/
theorem runParts_flatten (d : Dialogue α ε ρ) {parts : List (List α)} (h : Arrives parts) :
    (runParts closing d parts).mapRest List.flatten=run closing d parts.flatten := by
  induction d generalizing parts with
  | done result => rfl
  | send message next ih =>
    rw [runParts,run,Outcome.prepend_mapRest,ih h]
  | readExact n next ih =>
    rw [runParts,run]
    by_cases hlen : n ≤ parts.flatten.length
    · obtain ⟨rest,htake,hrest,harrives⟩ := takeExact_some h hlen
      rw [htake,if_pos hlen,← hrest]
      exact ih _ harrives
    · rw [takeExact_none (by omega),if_neg hlen]
      rfl
  | readOne next ih =>
    rw [runParts]
    cases hs : parts.flatten with
    | nil =>
      rw [takeOne_nil h hs,run]
      cases closing.broken with
      | some err => rfl
      | none =>
        have hnone : Arrives ([] : List (List α)) := fun part hpart => absurd hpart List.not_mem_nil
        exact ih none hnone
    | cons a s =>
      obtain ⟨rest,htake,rfl,harrives⟩ := takeOne_cons h hs
      rw [htake]
      exact ih (some a) harrives

/-! Rules -/

variable {closing}

@[simp] lemma run_done (result : Except ε ρ) (s : List α) :
    run closing (.done result) s=⟨result,[],s⟩ := rfl

@[simp] lemma run_send (message : List α) (next : Dialogue α ε ρ) (s : List α) :
    run closing (.send message next) s=(run closing next s).prepend message := rfl

theorem run_readExact_append {n : ℕ} {a : List α} (h : a.length=n) (next : List α → Dialogue α ε ρ)
    (s : List α) : run closing (.readExact n next) (a++s)=run closing (next a) s := by
  subst h
  rw [run,if_pos (by simp),List.take_left,List.drop_left]

@[simp] lemma run_readOne_cons (next : Option α → Dialogue α ε ρ) (a : α) (s : List α) :
    run closing (.readOne next) (a::s)=run closing (next (some a)) s := rfl

end Dialogue
end RotatorProxy.Library
