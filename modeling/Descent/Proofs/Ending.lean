import Descent.Proofs.Adequacy

/-!
# How plans end

`Plan.Ends` says that a plan comes to its end with a reply when all that it invokes replies as it
does, without a bound on how deep invocations nest. There is one law for each step of a plan, and a
grammar replies as its plan ends (`Plan.Ends.replies`). So a whole parse can be put together from
parses of the parts.
-/

namespace Descent

variable {ρ : Type}

namespace Plan

variable {table : ρ → Grammar ρ} {input : Input} {g : Grammar ρ} {p : Plan ρ} {s t : State}
  {v : Value} {r x : Reply Value} {onSuccess : Value → State → Plan ρ} {onFailure : State → Plan ρ}

/-- The plan ends with the reply, if all that it invokes replies as it does. -/
def Ends (table : ρ → Grammar ρ) (input : Input) (p : Plan ρ) (r : Reply Value) : Prop :=
  ∃ n k, p.follow (fun x => [x]) (Grammar.observe table input n) = some (r, k)

namespace Ends

theorem succeed (v : Value) (s : State) : (succeed v s : Plan ρ).Ends table input (.success v s) :=
  ⟨0, [], rfl⟩

theorem fail (s : State) : (fail s : Plan ρ).Ends table input (.failure s) := ⟨0, [], rfl⟩

theorem join (hg : g.Replies table input s x) (hp : p.Ends table input r) :
    ∃ n k l, g.observe table input n s = some (x, k) ∧
      p.follow (fun x => [x]) (Grammar.observe table input n) = some (r, l) := by
  obtain ⟨k, n, hn⟩ := Grammar.replies_iff_observed.1 hg
  obtain ⟨m, l, hm⟩ := hp
  refine ⟨max n m, k, l, Grammar.observe_mono (Nat.le_max_left n m) hn, ?_⟩
  exact follow_mono (fun _ _ _ => Grammar.observe_mono (Nat.le_max_right n m)) hm

theorem invoke_success (hg : g.Replies table input s (.success v t))
    (h : (onSuccess v t).Ends table input r) :
    (invoke g s onSuccess onFailure).Ends table input r := by
  obtain ⟨n, k, l, hk, hl⟩ := join hg h
  exact ⟨n, k ++ l, follow_invoke_eq_some.2 (.inl ⟨v, t, k, l, hk, hl, rfl⟩)⟩

theorem invoke_failure (hg : g.Replies table input s (.failure t))
    (h : (onFailure t).Ends table input r) :
    (invoke g s onSuccess onFailure).Ends table input r := by
  obtain ⟨n, k, l, hk, hl⟩ := join hg h
  exact ⟨n, k ++ l, follow_invoke_eq_some.2 (.inr (.inl ⟨t, k, l, hk, hl, rfl⟩))⟩

theorem invoke_stalled {i : Nat} (hg : g.Replies table input s (.stalled i)) :
    (invoke g s onSuccess onFailure).Ends table input (.stalled i) := by
  obtain ⟨k, n, hn⟩ := Grammar.replies_iff_observed.1 hg
  exact ⟨n, k, follow_invoke_eq_some.2 (.inr (.inr ⟨i, hn, rfl⟩))⟩

theorem round {start stop : Nat} (moved : start < stop) (h : p.Ends table input r) :
    (round start stop p).Ends table input r := by
  obtain ⟨n, k, hn⟩ := h
  exact ⟨n, _, follow_round_eq_some.2 (.inl ⟨moved, k, hn, rfl⟩)⟩

theorem round_stalled {start stop : Nat} (stays : ¬ start < stop) :
    (Plan.round start stop p).Ends table input (.stalled start) :=
  ⟨0, _, follow_round_eq_some.2 (.inr ⟨stays, rfl, rfl⟩)⟩

theorem note (e : Event) (h : p.Ends table input r) : (note e p).Ends table input r := by
  obtain ⟨n, k, hn⟩ := h
  exact ⟨n, _, prepend_eq_some.2 ⟨k, hn, rfl⟩⟩

theorem replies (h : (g.plan table input s).Ends table input r) : g.Replies table input s r := by
  obtain ⟨n, k, hn⟩ := h
  exact Grammar.replies_iff_observed.2 ⟨_, Grammar.observed_of_follow hn⟩

end Ends

end Plan

end Descent
