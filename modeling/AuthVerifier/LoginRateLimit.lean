import AuthVerifier.Lib.IpText
import AuthVerifier.Lib.RateLimit
import AuthVerifier.Models

/-!
The rate limit in front of `/login` and `/saml`, following `middleware/login_rate_limit.rs` and
`build_app` of `auth_verifier.rs`. The limiter itself is a crate. `build_app` runs once for each
worker of the HTTP server and makes a limiter there, which the two scopes of that worker share: an
address has the quota once for each worker, and shares it with nobody.
-/

set_option autoImplicit false

namespace AuthVerifier
open RateLimit

def nanosPerSecond : Nat := 1000000000

def clamp (lo hi x : Nat) : Nat := max lo (min x hi)

inductive LimitedScope where
  | login | saml
  deriving DecidableEq

/-- A request at one of the limited scopes. The clock counts nanoseconds. -/
structure Attempt where
  worker : Nat
  scope : LimitedScope
  peerAddr : Option Ip.Addr
  now : Nat
  deriving DecidableEq

namespace LoginRateLimit

/-- `LoginRateLimit::new`; there is nothing where one of its `expect`s panics. -/
def new (requestsPerSecond burstSize : Nat) : Option Quota :=
  let period := nanosPerSecond / clamp 1 1000000000 requestsPerSecond
  if hperiod : 0 < period then
    let burst := max burstSize 1
    if hburst : 0 < burst then some ⟨period, burst, hperiod, hburst⟩ else none
  else none

def peerIp (a : Attempt) : Ip.Addr := a.peerAddr.getD (.v4 ⟨127, 0, 0, 1⟩)

def tooManyRequests : HttpResponse :=
  { status := 429, body := .message "Rate limit exceeded — please slow down." }

section
variable {σ : Type} (L : Limiter Ip.Addr) (q : Quota)
  (service : Attempt → σ → σ × HttpResponse)

def call (limiter : L.State) (world : σ) (a : Attempt) : L.State × σ × HttpResponse :=
  if (L.check q limiter (peerIp a) a.now).1 then
    ((L.check q limiter (peerIp a) a.now).2, service a world)
  else ((L.check q limiter (peerIp a) a.now).2, world, tooManyRequests)

/-- The requests of all workers in the order of their arrival, and what they do to the services. -/
def serve (limiters : Nat → L.State) (world : σ) : List Attempt → σ
  | [] => world
  | a :: arrivals =>
    let out := call L q service (limiters a.worker) world a
    serve (Function.update limiters a.worker out.1) out.2.1 arrivals

/-- The requests that reach a service, each worker having a limiter of its own. -/
def reachedFrom (limiters : Nat → L.State) (arrivals : List Attempt) : List Attempt :=
  (L.pool : Limiter (Nat × Ip.Addr)).passed (fun a => (a.worker, peerIp a)) Attempt.now q limiters arrivals

def reached (arrivals : List Attempt) : List Attempt := reachedFrom L q (fun _ => L.fresh) arrivals

end

theorem new_eq (requestsPerSecond burstSize : Nat) :
    ∃ q, new requestsPerSecond burstSize = some q ∧
      q.period = nanosPerSecond / clamp 1 1000000000 requestsPerSecond ∧
      q.burst = max burstSize 1 := by
  have hperiod : 0 < nanosPerSecond / clamp 1 1000000000 requestsPerSecond := by
    apply Nat.div_pos
    · unfold clamp nanosPerSecond
      omega
    · unfold clamp
      omega
  have hburst : 0 < max burstSize 1 := by omega
  exact ⟨⟨_, _, hperiod, hburst⟩, by simp [new, hperiod, hburst], rfl, rfl⟩

section
variable {σ : Type} {L : Limiter Ip.Addr} {q : Quota}

theorem reachedFrom_cons (limiters : Nat → L.State) (a : Attempt) (arrivals : List Attempt) :
    reachedFrom L q limiters (a :: arrivals) =
      if (L.check q (limiters a.worker) (peerIp a) a.now).1 then
        a :: reachedFrom L q (Function.update limiters a.worker
          (L.check q (limiters a.worker) (peerIp a) a.now).2) arrivals
      else reachedFrom L q (Function.update limiters a.worker
        (L.check q (limiters a.worker) (peerIp a) a.now).2) arrivals := rfl

theorem serve_eq_foldl (service : Attempt → σ → σ × HttpResponse) (limiters : Nat → L.State)
    (world : σ) (arrivals : List Attempt) :
    serve L q service limiters world arrivals =
      (reachedFrom L q limiters arrivals).foldl (fun world a => (service a world).1) world := by
  induction arrivals generalizing limiters world with
  | nil => rfl
  | cons a arrivals ih =>
    rw [reachedFrom_cons, serve, ih]
    by_cases h : (L.check q (limiters a.worker) (peerIp a) a.now).1 = true
    · simp only [call, if_pos h, List.foldl_cons]
    · simp only [call, if_neg h]

end
section
variable {L : Limiter Ip.Addr} {q : Quota} {arrivals : List Attempt}

def inWindow (ip : Ip.Addr) (t w : Nat) (a : Attempt) : Bool :=
  peerIp a = ip ∧ t ≤ a.now ∧ a.now ≤ t + w

theorem pool_tracks (hL : L.Lawful) (q : Quota) :
    ∃ R, Tracks (L.pool : Limiter (Nat × Ip.Addr)) q R := hL.pool q

theorem instants_reached (hL : L.Lawful) (q : Quota) (hclock : Clocked Attempt.now arrivals)
    (k : Nat × Ip.Addr) :
    instants (fun a => (a.worker, peerIp a)) Attempt.now k (reached L q arrivals) =
      admits q [] (instants (fun a => (a.worker, peerIp a)) Attempt.now k arrivals) := by
  obtain ⟨R, hR⟩ := pool_tracks hL q
  exact hR.instants_passed k hclock hR.fresh (by simp)

theorem clocked_instants (hclock : Clocked Attempt.now arrivals) (k : Nat × Ip.Addr) :
    (instants (fun a => (a.worker, peerIp a)) Attempt.now k arrivals).Pairwise (· ≤ ·) := by
  rw [instants, List.pairwise_map]
  exact List.Pairwise.filter _ hclock

theorem countP_reached_le (hL : L.Lawful) (hclock : Clocked Attempt.now arrivals) {workers : Nat}
    (hworkers : ∀ a ∈ arrivals, a.worker < workers) (ip : Ip.Addr) (t w : Nat) :
    (reached L q arrivals).countP (inWindow ip t w) ≤
      workers * (q.burst + w / q.period) := by
  refine countP_le_mul (fun a ha => hworkers a (Limiter.mem_of_mem_passed ha)) fun i => ?_
  have hwindow := @countP_admits_le q _ (clocked_instants hclock (i, ip)) t w
  rw [← instants_reached hL q hclock, countP_instants] at hwindow
  refine Nat.le_trans (List.countP_mono_left ?_) hwindow
  intro a _ ha
  simp only [inWindow, Bool.and_eq_true, decide_eq_true_eq, Prod.mk.injEq] at ha ⊢
  tauto

/-- The requests with which one address uses up what all workers grant it. -/
def exhausting (q : Quota) (workers : Nat) (ip : Ip.Addr) (t n : Nat) : List Attempt :=
  (spread (List.range workers) (steady q t n)).map (fun c => ⟨c.1, .login, some ip, c.2⟩)

theorem mem_steady {t n a : Nat} (h : a ∈ steady q t n) : t ≤ a ∧ a ≤ t + n * q.period := by
  rcases List.mem_append.mp h with h | h
  · obtain ⟨_, rfl⟩ := List.mem_replicate.mp h
    omega
  · obtain ⟨i, hi, rfl⟩ := List.mem_map.mp h
    have hle : (i + 1) * q.period ≤ n * q.period :=
      Nat.mul_le_mul_right q.period (Nat.succ_le_of_lt (List.mem_range.mp hi))
    omega

theorem pairwise_steady (t n : Nat) : (steady q t n).Pairwise (· ≤ ·) := by
  induction n with
  | zero => simp [steady, List.pairwise_replicate]
  | succ n ih =>
    rw [steady_succ, List.pairwise_append]
    refine ⟨ih, List.pairwise_singleton _ _, fun a ha b hb => ?_⟩
    have hle := (mem_steady ha).2
    rw [List.mem_singleton] at hb
    rw [hb, Nat.succ_mul]
    omega

theorem mem_exhausting {workers t n : Nat} {ip : Ip.Addr} {a : Attempt}
    (h : a ∈ exhausting q workers ip t n) :
    a.worker < workers ∧ peerIp a = ip ∧ t ≤ a.now ∧ a.now ≤ t + n * q.period := by
  obtain ⟨c, hc, rfl⟩ := List.mem_map.mp h
  obtain ⟨time, htime, hc⟩ := List.mem_flatMap.mp hc
  obtain ⟨i, hi, rfl⟩ := List.mem_map.mp hc
  exact ⟨List.mem_range.mp hi, rfl, mem_steady htime⟩

theorem clocked_exhausting (workers t n : Nat) (ip : Ip.Addr) :
    Clocked Attempt.now (exhausting q workers ip t n) := by
  unfold Clocked exhausting
  rw [List.pairwise_map]
  exact clocked_spread (List.range workers) (pairwise_steady t n)

theorem reached_exhausting (hL : L.Lawful) (workers t n : Nat) (ip : Ip.Addr) :
    reached L q (exhausting q workers ip t n) = exhausting q workers ip t n := by
  obtain ⟨R, hR⟩ := pool_tracks hL q
  refine hR.passed_eq_self (clocked_exhausting workers t n ip) hR.fresh (by simp) fun k => ?_
  obtain ⟨i, other⟩ := k
  have hinstants : instants (fun a => (a.worker, peerIp a)) Attempt.now (i, other)
      (exhausting q workers ip t n) =
      if ip = other then instants Prod.fst Prod.snd i
        (spread (List.range workers) (steady q t n)) else [] := by
    rw [exhausting, instants_map]
    by_cases hip : ip = other
    · simp [instants, peerIp, hip, Function.comp_def]
    · simp [instants, peerIp, hip, Function.comp_def]
  rw [hinstants, instants_spread List.nodup_range]
  split
  · split
    · exact admits_steady t n
    · rfl
  · rfl

/-- The most that one address gets through in a window is a burst and one request for each period in
it, once for each worker. -/
theorem isGreatest_reached (hL : L.Lawful) (requestsPerSecond burstSize workers : Nat)
    (ip : Ip.Addr) (t w : Nat) :
    ∃ q, new requestsPerSecond burstSize = some q ∧
      IsGreatest
        {n | ∃ arrivals, Clocked Attempt.now arrivals ∧ (∀ a ∈ arrivals, a.worker < workers) ∧
          n = (reached L q arrivals).countP (inWindow ip t w)}
        (workers * (max burstSize 1 +
          w / (nanosPerSecond / clamp 1 1000000000 requestsPerSecond))) := by
  obtain ⟨q, hnew, hperiod, hburst⟩ := new_eq requestsPerSecond burstSize
  refine ⟨q, hnew, ?_, ?_⟩
  · refine ⟨exhausting q workers ip t (w / q.period), clocked_exhausting workers t _ ip,
      fun a ha => (mem_exhausting ha).1, ?_⟩
    have hall : ∀ a ∈ exhausting q workers ip t (w / q.period), inWindow ip t w a = true := by
      intro a ha
      obtain ⟨_, hip, hfrom, hto⟩ := mem_exhausting ha
      have hspan := Nat.div_mul_le_self w q.period
      simp only [inWindow, Bool.decide_and, Bool.and_eq_true, decide_eq_true_eq]
      exact ⟨hip, hfrom, by omega⟩
    rw [reached_exhausting hL, List.countP_eq_length.mpr hall, ← hperiod, ← hburst]
    simp [exhausting, length_spread, steady, Nat.mul_comm]
  · rintro n ⟨arrivals, hclock, hworkers, rfl⟩
    rw [← hperiod, ← hburst]
    exact countP_reached_le hL hclock hworkers ip t w

/-- Two workers let one address through twenty times at once, and ten times more over a second. -/
theorem isGreatest_reached_default :
    ∃ q, new 5 10 = some q ∧
      IsGreatest
        {n | ∃ arrivals, Clocked Attempt.now arrivals ∧ (∀ a ∈ arrivals, a.worker < 2) ∧
          n = (reached gcra q arrivals).countP
            (inWindow (.v4 ⟨192, 0, 2, 1⟩) 0 nanosPerSecond)}
        30 :=
  isGreatest_reached gcra_lawful 5 10 2 (.v4 ⟨192, 0, 2, 1⟩) 0 nanosPerSecond

/-- What others send has no influence on an address, and an address that keeps a period between its
requests to each worker is never refused. -/
theorem reached_of_peer (hL : L.Lawful) (q : Quota) (hclock : Clocked Attempt.now arrivals)
    (ip : Ip.Addr) :
    (reached L q arrivals).filter (fun a => peerIp a = ip) =
        reached L q (arrivals.filter (fun a => peerIp a = ip)) ∧
      ((∀ i, (arrivals.filter (fun a => peerIp a = ip ∧ a.worker = i)).Pairwise
          (fun a b => a.now + q.period ≤ b.now)) →
        (reached L q arrivals).filter (fun a => peerIp a = ip) =
          arrivals.filter (fun a => peerIp a = ip)) := by
  obtain ⟨R, hR⟩ := pool_tracks hL q
  have hisolated : (reached L q arrivals).filter (fun a => peerIp a = ip) =
      reached L q (arrivals.filter (fun a => peerIp a = ip)) :=
    @Tracks.passed_filter q (Nat × Ip.Addr) _ Attempt (fun a => (a.worker, peerIp a)) Attempt.now
      L.pool R _ _ arrivals hR (fun k => decide (k.2 = ip)) hclock hR.fresh (by simp) _ _ hR.fresh
      (by simp) (fun _ _ => rfl)
  refine ⟨hisolated, fun hspaced => hisolated.trans ?_⟩
  refine hR.passed_eq_self (hclock.filter _) hR.fresh (by simp) fun k => ?_
  refine admits_of_spaced .nil ?_ (by simp)
  rw [instants, List.pairwise_map, List.filter_filter]
  refine (List.Pairwise.sublist ?_ (hspaced k.1))
  refine List.monotone_filter_right _ fun a ha => ?_
  obtain ⟨i, other⟩ := k
  simp only [Bool.and_eq_true, decide_eq_true_eq, Prod.mk.injEq] at ha ⊢
  exact ⟨ha.2, ha.1.1⟩

/-- The second address keeps its pace while the first one floods the server. -/
theorem reached_of_peer_flooded :
    (reached gcra ⟨nanosPerSecond, 1, by decide, by decide⟩
        [⟨0, .login, some (.v4 ⟨192, 0, 2, 1⟩), 0⟩, ⟨0, .login, some (.v4 ⟨192, 0, 2, 2⟩), 0⟩,
          ⟨0, .saml, some (.v4 ⟨192, 0, 2, 1⟩), 0⟩,
          ⟨0, .saml, some (.v4 ⟨192, 0, 2, 2⟩), nanosPerSecond⟩]).filter
        (fun a => peerIp a = .v4 ⟨192, 0, 2, 2⟩) =
      [⟨0, .login, some (.v4 ⟨192, 0, 2, 2⟩), 0⟩,
        ⟨0, .saml, some (.v4 ⟨192, 0, 2, 2⟩), nanosPerSecond⟩] := by
  refine ((reached_of_peer gcra_lawful _ (by unfold Clocked; decide) _).2 fun i => ?_).trans
    (by decide)
  by_cases hi : i = 0
  · subst hi
    decide
  · simp [Ne.symm hi]

end

end LoginRateLimit
end AuthVerifier
