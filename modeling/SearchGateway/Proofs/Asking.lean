import Mathlib.Tactic
import SearchGateway.Proofs.Action

/-!
# What was asked of the engine

`Surroundings.Asks s asked t` says all that the engine can tell of what happened from `s` to `t`: it
was asked the requests in `asked`, one after the other, and gave a reply to each.  What an action
asks is put together from what its steps ask (`Surroundings.Asks.trans`).
-/

set_option autoImplicit false

namespace SearchGateway

open SearchGateway.Action

namespace Surroundings

/-- The reply to the request after `i` others, counted from here. -/
def answer (s : Surroundings) (i : ℕ) : Reply := s.engineReplies.getD i idleEngine

/-- The next `n` replies. -/
def answers (s : Surroundings) (n : ℕ) : List Reply := (List.range n).map s.answer

theorem reply_eq_answer (s : Surroundings) : s.reply = s.answer 0 := by
  unfold reply answer
  cases s.engineReplies <;> rfl

/-- The engine was asked just these requests from `s` to `t`, the first one first, and gave a reply
to each. -/
structure Asks (s : Surroundings) (asked : List EngineRequest) (t : Surroundings) : Prop where
  requests : t.requests = asked.reverse ++ s.requests
  replies : t.engineReplies = s.engineReplies.drop asked.length

theorem Aside.asks {s t : Surroundings} (h : s.Aside t) : s.Asks [] t :=
  ⟨h.requests, h.engineReplies⟩

theorem Asks.refl (s : Surroundings) : s.Asks [] s := (Aside.refl s).asks

theorem asks_asked (s : Surroundings) (connection : Connection) (request : EngineRequest) :
    s.Asks [request] (s.asked connection request) := by
  refine ⟨rfl, ?_⟩
  rw [engineReplies_asked]
  cases s.engineReplies <;> rfl

theorem Asks.trans {s t u : Surroundings} {first second : List EngineRequest}
    (hst : s.Asks first t) (htu : t.Asks second u) : s.Asks (first ++ second) u := by
  refine ⟨?_, ?_⟩
  · rw [htu.requests, hst.requests, List.reverse_append, List.append_assoc]
  · rw [htu.replies, hst.replies, List.drop_drop, List.length_append]

theorem Asks.aside {s t u : Surroundings} {requests : List EngineRequest}
    (hst : s.Asks requests t) (htu : t.Aside u) : s.Asks requests u := by
  simpa using hst.trans htu.asks

theorem Asks.answer {s t : Surroundings} {asked : List EngineRequest} (h : s.Asks asked t) (i : ℕ) :
    t.answer i = s.answer (i + asked.length) := by
  unfold Surroundings.answer
  rw [h.replies, List.getD_eq_getElem?_getD, List.getElem?_drop, List.getD_eq_getElem?_getD,
    Nat.add_comm]

theorem take_answers {s : Surroundings} {m n : ℕ} (h : m ≤ n) :
    (s.answers n).take m = s.answers m := by
  rw [answers, ← List.map_take, List.take_range, Nat.min_eq_left h, answers]

theorem getElem?_answers {s : Surroundings} {n i : ℕ} {reply : Reply} :
    (s.answers n)[i]? = some reply ↔ i < n ∧ reply = s.answer i := by
  rw [List.getElem?_eq_some_iff]
  simp [answers, eq_comm]

theorem answers_succ {s t : Surroundings} {request : EngineRequest} (h : s.Asks [request] t)
    (n : ℕ) : s.answers (n + 1) = s.answer 0 :: t.answers n := by
  unfold answers
  rw [List.range_succ_eq_map, List.map_cons, List.map_map]
  congr 1
  apply List.map_congr_left
  intro i _
  exact (h.answer i).symm

end Surroundings

end SearchGateway
