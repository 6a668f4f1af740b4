import Validium.ProofService.Client
import Validium.Proofs.Retry.Course

/-!
The asking for the proof of a submission, as repeating an attempt. An attempt sends a request to
one address; as long as its reply does not say that the proof is there, another may follow.
-/
namespace Validium.ProofService

def reason : Http.Outcome → String
  | .failed f => "transport error: " ++ f.message
  | .answered status _ => s!"HTTP {status}"

namespace Client

variable {W : Type} (c : Client W) (signal : Signal W) (blockHash : Hash) (index : UInt32)

def request (url : Url) : Http.Request := ⟨.get, url, [], [], c.timeout⟩

def asking : Retry.Repetition W FetchError Answer where
  policy := c.policy
  signal := signal
  clock := c.clock
  op := fun _ => c.fetchOnce (c.proofUrl blockHash index)
  retryable := FetchError.isRetryable

inductive NotReady : Http.Outcome → Prop
  | failed (f : Http.Failure) : NotReady (.failed f)
  | status (code : Nat) (body : Option Bytes) (h : code ≠ 200) : NotReady (.answered code body)

/-- After `k` replies that the proof is not ready, within the budget of attempts, a reply to
the request for the submission spells an answer with this proof. -/
structure Serves (url : Url) (w : W) (k : Nat) (p : Message.InclusionProof) : Prop where
  address : Url.parse (c.proofUrl blockHash index) = some url
  budget : k < max 1 c.policy.maxAttempts.toNat
  early : ∀ j < k, NotReady
    (c.network.exchange (c.request url) ((c.asking signal blockHash index).before w j)).1
  served : ∃ body a,
    (c.network.exchange (c.request url) ((c.asking signal blockHash index).before w k)).1 =
      .answered 200 (some body) ∧ Answer.ofBytes? body = some a ∧ a.proof = p

theorem NotReady.retryable {reply : Http.Outcome} (h : NotReady reply) :
    ∃ e, readOutcome reply = .error e ∧ e.isRetryable = true ∧ e.message = reason reply := by
  cases h with
  | failed f => exact ⟨.transport f, rfl, rfl, rfl⟩
  | status code body h => exact ⟨.status code, if_pos h, rfl, rfl⟩

theorem asking_op (n : UInt32) :
    (c.asking signal blockHash index).op n = c.fetchOnce (c.proofUrl blockHash index) := by
  rw [asking]

theorem fetchProof_eq : c.fetchProof signal blockHash index =
    conclude blockHash index <$> (c.asking signal blockHash index).run := rfl

variable {c signal blockHash index}

/-- Each outcome is what the service answers at that moment. -/
theorem Serves.outcome_eq {url : Url} {w : W} {k : Nat} {p : Message.InclusionProof}
    (h : c.Serves signal blockHash index url w k p) (j : Nat) :
    (c.asking signal blockHash index).outcome w j = readOutcome
      (c.network.exchange (c.request url) ((c.asking signal blockHash index).before w j)).1 := by
  have hfetch : c.fetchOnce (c.proofUrl blockHash index) =
      readOutcome <$> c.network.exchange (c.request url) := by
    rw [fetchOnce, h.address]
    rfl
  rw [Retry.Repetition.outcome, asking_op, hfetch, map_apply]

/-- The asking ends with the proof that is served, and with the attempt that it is served to. -/
theorem Serves.fetchProof_eq {url : Url} {w : W} {k : Nat} {p : Message.InclusionProof}
    (h : c.Serves signal blockHash index url w k p) (hquiet : signal.Quiet) :
    c.fetchProof signal blockHash index w =
      (.ok p, (c.asking signal blockHash index).after w k) := by
  obtain ⟨body, a, hreply, hanswer, rfl⟩ := h.served
  have hbudget : k < (c.asking signal blockHash index).budget := by
    rw [Retry.Repetition.budget_eq]
    exact h.budget
  have hfails : ∀ j < k, (c.asking signal blockHash index).Fails w j := by
    intro j hj
    obtain ⟨e, he, hretry, -⟩ := (h.early j hj).retryable
    exact ⟨e, (h.outcome_eq j).trans he, hretry⟩
  have houtcome : (c.asking signal blockHash index).outcome w k = .ok a := by
    rw [h.outcome_eq, hreply]
    have hread : readOutcome (.answered 200 (some body)) = .ok a := by
      simp only [readOutcome, hanswer, ne_eq, not_true_eq_false, if_false]
    exact hread
  have hconclusion : (c.asking signal blockHash index).conclusion w k = some (.ok a) := by
    rw [Retry.Repetition.conclusion, houtcome]
  have hrun := Retry.Repetition.run_of_conclusion hbudget hfails (fun j _ => hquiet _) _ hconclusion
  rw [Client.fetchProof_eq, map_apply, hrun]
  rfl

end Client

end Validium.ProofService
