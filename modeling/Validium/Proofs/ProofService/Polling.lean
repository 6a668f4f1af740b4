import Validium.Proofs.DataLayer.Attested

/-!
Asking for a proof, reply by reply. The replies come from a script, one for each request, and a
log tells the requests that are sent and the waits between them. A reply of status 200 ends the
asking whatever its body is; after any other there is a wait and the same request once more, until
the budget is spent or the signal has fired.
-/
namespace Validium.ProofService

variable {W : Type}

inductive Event where
  | asked (request : Http.Request)
  | waited (d : Duration)
  deriving DecidableEq

def Event.isAsked : Event → Bool
  | .asked _ => true
  | .waited _ => false

def rounds (ask : List Event) (interval : Duration) (k : Nat) : List Event :=
  (List.replicate k (ask ++ [.waited interval])).flatten

theorem rounds_succ (ask : List Event) (interval : Duration) (k : Nat) :
    rounds ask interval (k + 1) = rounds ask interval k ++ ask ++ [.waited interval] := by
  rw [rounds, List.replicate_succ', List.flatten_append, List.flatten_singleton,
    List.append_assoc]
  rfl

theorem countP_rounds_asked (request : Http.Request) (interval : Duration) (k : Nat) :
    (rounds [.asked request] interval k).countP Event.isAsked = k := by
  induction k with
  | zero => rfl
  | succ k ih =>
    rw [rounds_succ, List.countP_append, List.countP_append, ih]
    rfl

def served : Option Bytes → Except Attestation.Error Message.InclusionProof
  | none => .error (.malformedProof "cannot read body: error decoding response body")
  | some body =>
    match Answer.ofBytes? body with
    | none => .error (.malformedProof "cannot parse proof: not a proof object")
    | some a => .ok a.proof

namespace Client

section Script

variable (c : Client W) (script : Nat → Http.Outcome)

/-- The client on a network that answers by the script, beside a log of its requests and waits.
The world moves on as it does with the client itself. -/
def scripted : Client (W × List Event) where
  network := ⟨fun request s =>
    (script (s.2.countP Event.isAsked), (c.network.exchange request s.1).2,
      s.2 ++ [.asked request])⟩
  clock := {
    sleep := fun d s => ((), (c.clock.sleep d s.1).2, s.2 ++ [.waited d])
    spread := fun d s => ((c.clock.spread d s.1).1, (c.clock.spread d s.1).2, s.2) }
  baseUrl := c.baseUrl
  policy := c.policy
  timeout := c.timeout

def sent : Option Url → List Event
  | none => []
  | some url => [.asked (c.request url)]

def heard : Option Url → Nat → Http.Outcome
  | none, _ => .failed .unreachable
  | some _, k => script k

/-- After k rounds the next request hears the answer k of the script. -/
theorem scripted_fetchOnce (address : String) (interval : Duration) (k : Nat) (v : W) :
    ∃ v', (c.scripted script).fetchOnce address
        (v, rounds (c.sent (Url.parse address)) interval k) =
      (readOutcome (heard script (Url.parse address) k), v',
        rounds (c.sent (Url.parse address)) interval k ++ c.sent (Url.parse address)) := by
  unfold fetchOnce
  cases Url.parse address with
  | none =>
    refine ⟨v, ?_⟩
    rw [sent, List.append_nil]
    rfl
  | some url =>
    have hcount := countP_rounds_asked (c.request url) interval k
    refine ⟨(c.network.exchange (c.request url) v).2, ?_⟩
    rw [heard, ← congrArg script hcount]
    rfl

variable (signal : Signal (W × List Event)) (blockHash : Hash) (index : UInt32)

abbrev polling : Retry.Repetition (W × List Event) FetchError Answer :=
  (c.scripted script).asking signal blockHash index

/-- The asking follows these replies, when each attempt sends this: the first reply of status 200
decides it, and as long as there is none each attempt is followed by one wait of the interval and
the next attempt, up to the last one or to the first that finds the signal fired. -/
structure Follows (config : Config) (replies : Nat → Http.Outcome) (ask : List Event) (w : W) :
    Prop where
  log : ∀ k, ((c.polling script signal blockHash index).before (w, []) k).2 =
    rounds ask config.waitInterval k
  served : ∀ k < (max 1 config.retryCount).toNat,
    (∀ j < k, NotReady (replies j)) →
    (c.polling script signal blockHash index).Silent (w, []) k →
    ∀ body, replies k = .answered 200 body →
      ∃ v, (c.scripted script).fetchProof signal blockHash index (w, []) =
        (ProofService.served body, v, rounds ask config.waitInterval k ++ ask)
  exhausted : ∀ k, k + 1 = (max 1 config.retryCount).toNat →
    (∀ j ≤ k, NotReady (replies j)) →
    (c.polling script signal blockHash index).Silent (w, []) k →
    ∃ v, (c.scripted script).fetchProof signal blockHash index (w, []) =
      (.error (.timeout blockHash index (max 1 config.retryCount) (reason (replies k))), v,
        rounds ask config.waitInterval k ++ ask)
  cancelled : ∀ k < (max 1 config.retryCount).toNat,
    (∀ j < k, NotReady (replies j)) →
    (∀ j < k, signal.fired ((c.polling script signal blockHash index).before (w, []) j) = false) →
    signal.fired ((c.polling script signal blockHash index).before (w, []) k) = true →
    ∃ v, (c.scripted script).fetchProof signal blockHash index (w, []) =
      (.error .cancelled, v, rounds ask config.waitInterval k)

section Course

variable {c blockHash index} {url : Option Url}
  (haddress : Url.parse (c.proofUrl blockHash index) = url) {n : UInt32} {interval : Duration}
  (hpolicy : c.policy = .fixed n interval)

include haddress in
theorem polling_op (interval : Duration) (k : Nat) (v : W) :
    ∃ v', (c.polling script signal blockHash index).op (Retry.number k)
        (v, rounds (c.sent url) interval k) =
      (readOutcome (heard script url k), v',
        rounds (c.sent url) interval k ++ c.sent url) := by
  have hurl : (c.scripted script).proofUrl blockHash index = c.proofUrl blockHash index := rfl
  rw [asking_op, hurl, ← haddress]
  exact c.scripted_fetchOnce script (c.proofUrl blockHash index) interval k v

include hpolicy in
theorem polling_pause (k : UInt32) (s : W × List Event) :
    ((c.polling script signal blockHash index).pause k s).2 =
      ((c.clock.sleep interval s.1).2, s.2 ++ [.waited interval]) := by
  have hsame : (c.polling script signal blockHash index).policy = .fixed n interval := hpolicy
  rw [Retry.Repetition.pause, Retry.delay, hsame]
  rfl

include hpolicy in
theorem polling_budget (blockHash : Hash) (index : UInt32) :
    (c.polling script signal blockHash index).budget = (max 1 n).toNat := by
  have hattempts : (c.polling script signal blockHash index).budget = c.policy.attempts.toNat := rfl
  rw [hattempts, hpolicy]
  rfl

variable (w : W) {k : Nat}

include haddress hpolicy

/-- A round leaves what it sends and its wait in the log. -/
theorem polling_before (k : Nat) :
    ∃ v, (c.polling script signal blockHash index).before (w, []) k =
      (v, rounds (c.sent url) interval k) := by
  induction k with
  | zero => exact ⟨w, rfl⟩
  | succ k ih =>
    obtain ⟨v, hbefore⟩ := ih
    obtain ⟨v', hop⟩ := polling_op script signal haddress interval k v
    refine ⟨(c.clock.sleep interval v').2, ?_⟩
    rw [Retry.Repetition.before, hbefore, hop, polling_pause script signal hpolicy, rounds_succ]

theorem polling_attempt (k : Nat) :
    (c.polling script signal blockHash index).outcome (w, []) k =
        readOutcome (heard script url k) ∧
      ∃ v, (c.polling script signal blockHash index).after (w, []) k =
        (v, rounds (c.sent url) interval k ++ c.sent url) := by
  obtain ⟨v, hbefore⟩ := polling_before script signal haddress hpolicy w k
  obtain ⟨v', hop⟩ := polling_op script signal haddress interval k v
  rw [Retry.Repetition.outcome, Retry.Repetition.after, hbefore, hop]
  exact ⟨rfl, v', rfl⟩

theorem polling_fails (j : Nat) (h : NotReady (heard script url j)) :
    (c.polling script signal blockHash index).Fails (w, []) j := by
  obtain ⟨e, hread, hretry, -⟩ := h.retryable
  have houtcome := (polling_attempt script signal haddress hpolicy w j).1
  exact ⟨e, houtcome.trans hread, hretry⟩

/-- What an attempt hears with status 200 concludes the asking. -/
theorem polling_conclusion_served {body : Option Bytes}
    (hreply : heard script url k = .answered 200 body) :
    ∃ result, (c.polling script signal blockHash index).conclusion (w, []) k = some result ∧
      conclude blockHash index result = served body := by
  have houtcome := (polling_attempt script signal haddress hpolicy w k).1
  rw [Retry.Repetition.conclusion, houtcome, hreply]
  cases body with
  | none => exact ⟨.error (.fatal (Retry.number k) .body), rfl, rfl⟩
  | some b =>
    have hread : readOutcome (.answered 200 (some b)) =
        match Answer.ofBytes? b with
        | none => .error .parse
        | some a => .ok a := rfl
    rw [hread, served]
    cases Answer.ofBytes? b with
    | none => exact ⟨.error (.fatal (Retry.number k) .parse), rfl, rfl⟩
    | some a => exact ⟨.ok a, rfl, rfl⟩

/-- So does the last reply, if it has another status. -/
theorem polling_conclusion_exhausted (hlast : k + 1 = (max 1 n).toNat)
    (hreply : NotReady (heard script url k)) :
    ∃ result, (c.polling script signal blockHash index).conclusion (w, []) k = some result ∧
      conclude blockHash index result =
        .error (.timeout blockHash index (max 1 n) (reason (heard script url k))) := by
  have houtcome := (polling_attempt script signal haddress hpolicy w k).1
  obtain ⟨e, hread, hretry, hmessage⟩ := hreply.retryable
  have hworth : ¬ (c.polling script signal blockHash index).retryable e = false :=
    fun hfatal => Bool.noConfusion (hretry.symm.trans hfatal)
  have hbudget := polling_budget script signal hpolicy blockHash index
  have hattempts : (c.polling script signal blockHash index).policy.attempts = max 1 n :=
    congrArg Retry.Policy.attempts hpolicy
  refine ⟨.error (.exhausted (max 1 n) e), ?_, ?_⟩
  · rw [Retry.Repetition.conclusion, houtcome, hread]
    dsimp only
    rw [if_neg hworth, if_pos (hlast.trans hbudget.symm), hattempts]
  · rw [← hmessage]
    rfl

/-- An attempt that concludes the asking leaves what it sends as the last of the log. -/
theorem fetchProof_of_conclusion (hk : k < (max 1 n).toNat)
    (hearly : ∀ j < k, NotReady (heard script url j))
    (hsilent : (c.polling script signal blockHash index).Silent (w, []) k)
    {result : Except (Retry.Error FetchError) Answer}
    (hresult : (c.polling script signal blockHash index).conclusion (w, []) k = some result) :
    ∃ v, (c.scripted script).fetchProof signal blockHash index (w, []) =
      (conclude blockHash index result, v,
        rounds (c.sent url) interval k ++ c.sent url) := by
  have hbudget := polling_budget script signal hpolicy blockHash index
  have hfails := polling_fails script signal haddress hpolicy w
  have hrun := Retry.Repetition.run_of_conclusion (hk.trans_eq hbudget.symm)
    (fun j hj => hfails j (hearly j hj)) hsilent result hresult
  obtain ⟨-, v, hafter⟩ := polling_attempt script signal haddress hpolicy w k
  rw [fetchProof_eq, map_apply, hrun, hafter]
  exact ⟨v, rfl⟩

/-- An attempt that finds the signal fired is not made. -/
theorem fetchProof_of_fired (hk : k < (max 1 n).toNat)
    (hearly : ∀ j < k, NotReady (heard script url j))
    (hunfired : ∀ j < k,
      signal.fired ((c.polling script signal blockHash index).before (w, []) j) = false)
    (hfired : signal.fired ((c.polling script signal blockHash index).before (w, []) k) = true) :
    ∃ v, (c.scripted script).fetchProof signal blockHash index (w, []) =
      (.error .cancelled, v, rounds (c.sent url) interval k) := by
  have hbudget := polling_budget script signal hpolicy blockHash index
  have hfails := polling_fails script signal haddress hpolicy w
  have hrun := Retry.Repetition.run_of_fired (hk.trans_eq hbudget.symm)
    (fun j hj => hfails j (hearly j hj)) hunfired hfired
  obtain ⟨v, hbefore⟩ := polling_before script signal haddress hpolicy w k
  rw [fetchProof_eq, map_apply, hrun, hbefore]
  exact ⟨v, rfl⟩

end Course

/-- The polling makes the requests and waits of the script and ends as it foretells. -/
theorem follows {config : Config}
    (hpolicy : c.policy = .fixed config.retryCount config.waitInterval)
    {url : Option Url} (haddress : Url.parse (c.proofUrl blockHash index) = url) (w : W) :
    c.Follows script signal blockHash index config (heard script url) (c.sent url) w where
  log := by
    intro k
    obtain ⟨v, hbefore⟩ := polling_before script signal haddress hpolicy w k
    rw [hbefore]
  served := by
    intro k hk hearly hsilent body hreply
    obtain ⟨result, hresult, hserved⟩ :=
      polling_conclusion_served script signal haddress hpolicy w hreply
    rw [← hserved]
    exact fetchProof_of_conclusion script signal haddress hpolicy w hk hearly hsilent hresult
  exhausted := by
    intro k hlast hnever hsilent
    obtain ⟨result, hresult, htimeout⟩ :=
      polling_conclusion_exhausted script signal haddress hpolicy w hlast (hnever k (Nat.le_refl k))
    rw [← htimeout]
    exact fetchProof_of_conclusion script signal haddress hpolicy w (by omega)
      (fun j hj => hnever j (Nat.le_of_lt hj)) hsilent hresult
  cancelled := by
    intro k hk hearly hunfired hfired
    exact fetchProof_of_fired script signal haddress hpolicy w hk hearly hunfired hfired

end Script

/-- A client that was made waits and counts as its configuration says. -/
theorem new_ok {network : Network W} {clock : Clock W} {config : Config} {c : Client W}
    (h : new network clock config = .ok c) :
    c.policy = .fixed config.retryCount config.waitInterval ∧
      c.timeout = config.requestTimeout := by
  unfold new at h
  cases hurl : Url.parse config.apiUrl with
  | none =>
    rw [hurl] at h
    cases h
  | some url =>
    rw [hurl] at h
    cases h
    exact ⟨rfl, rfl⟩

/-- The asking of a client that a configuration gives follows whichever script the network answers
by. Where its address is none, nothing is sent and every attempt fails as unreachable. -/
theorem fetchProof_scripted {network : Network W} {clock : Clock W} {config : Config}
    {c : Client W} (hclient : new network clock config = .ok c) (script : Nat → Http.Outcome)
    (signal : Signal (W × List Event)) (blockHash : Hash) (index : UInt32) (w : W) :
    (∀ url, Url.parse (c.proofUrl blockHash index) = some url →
      c.Follows script signal blockHash index config script
        [.asked ⟨.get, url, [], [], config.requestTimeout⟩] w) ∧
    (Url.parse (c.proofUrl blockHash index) = none →
      c.Follows script signal blockHash index config (fun _ => .failed .unreachable) [] w) := by
  obtain ⟨hpolicy, htimeout⟩ := new_ok hclient
  constructor
  · intro url haddress
    rw [← htimeout]
    exact c.follows script signal blockHash index hpolicy haddress w
  · intro haddress
    exact c.follows script signal blockHash index hpolicy haddress w

def loopback : Client Unit where
  network := ⟨fun _ => pure (.failed .unreachable)⟩
  clock := ⟨fun _ => pure (), pure⟩
  baseUrl := "http://[::1]"
  policy := .fixed 3 (.ofSeconds 2)
  timeout := .ofSeconds 30

theorem new_loopback : new loopback.network loopback.clock
    (.new "http://[::1]/" 3 (.ofSeconds 2)) = .ok loopback := by
  obtain ⟨url, hurl⟩ := Url.exists_parse_append ""
  have hparsed : Url.parse (Config.new "http://[::1]/" 3 (.ofSeconds 2)).apiUrl = some url := hurl
  have hbase : Text.dropTrailing '/' "http://[::1]/" = "http://[::1]" := by decide
  rw [new, hparsed]
  dsimp only
  rw [Config.new, hbase]
  rfl

/-- A service that is not heard at first, then has no proof, and then has one. -/
def late : Nat → Http.Outcome
  | 0 => .failed .timedOut
  | 1 => .answered 404 none
  | _ + 2 => .answered 200 (some DataLayer.Triple.body)

/-- The third and last request brings the proof. -/
theorem fetchProof_scripted_late : ∃ (url : Url) (v : Unit),
    Url.parse (loopback.proofUrl Word.zero 7) = some url ∧
    (loopback.scripted late).fetchProof .never Word.zero 7 ((), []) =
      (.ok DataLayer.Triple.proof, v, rounds [.asked ⟨.get, url, [], [], .ofSeconds 30⟩]
        (.ofSeconds 2) 2 ++ [.asked ⟨.get, url, [], [], .ofSeconds 30⟩]) := by
  obtain ⟨url, haddress⟩ := DataLayer.Triple.exists_parse_proofUrl Word.zero 7
  have hearly : ∀ j < 2, NotReady (late j) := by
    intro j hj
    match j, hj with
    | 0, _ => exact .failed .timedOut
    | 1, _ => exact .status 404 none (by decide)
  have hfollows := (fetchProof_scripted new_loopback late .never Word.zero 7 ()).1 url haddress
  obtain ⟨v, hrun⟩ := hfollows.served 2 (by decide) hearly (fun _ _ => rfl) _ rfl
  have hproof : served (some DataLayer.Triple.body) = .ok DataLayer.Triple.proof := by
    rw [served, DataLayer.Triple.ofBytes?_body]
  refine ⟨url, v, haddress, ?_⟩
  rw [hrun, hproof]
  rfl

end Client

end Validium.ProofService
