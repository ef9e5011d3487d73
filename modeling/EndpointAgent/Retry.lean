import EndpointAgent.Supervisor.Startup
import EndpointAgent.Sender.Delivery

/-!
# The two retry loops

`RetryWithBackoff`, as `RunBootstrap` runs it over `callBootstrapAPI`, and
`Sender.sendWithRetry` over `sendBatch`. The design has every 4xx status other than 408 and
429 end the loop at once. Neither loop looks at the status: `callBootstrapAPI` folds it into
an untyped error, `IsRetryable` is never called, and `sendBatch` only tells 200 and 201 from
the rest. A refusal that no retry can change is sent again until the attempts run out.
-/

set_option autoImplicit false

namespace EndpointAgent

/-- An HTTP status the design treats as final: a 4xx other than 408 and 429. -/
def NonRetryable (status : Nat) : Prop := 400 ≤ status ∧ status < 500 ∧ status ≠ 408 ∧ status ≠ 429

instance (status : Nat) : Decidable (NonRetryable status) := inferInstanceAs (Decidable (_ ∧ _))

private theorem NonRetryable.ne_ok {status : Nat} (final : NonRetryable status) : status ≠ 200 ∧ status ≠ 201 := by
  unfold NonRetryable at final
  omega

/-- The error `callBootstrapAPI` returns for an answer other than 200. -/
def bootstrapRefusal (status : Nat) (body : String) : GoError :=
  GoError.new ("bootstrap failed with status " ++ toString status ++ ": " ++ body)

/-- The error `sendBatch` returns for an answer other than 200 and 201. -/
def sendRefusal (status : Nat) (body : String) : GoError :=
  GoError.new ("server returned status " ++ toString status ++ ": " ++ body)

section Bootstrap

variable {env : SupervisorEnv} {status : Nat} {body : String} {decoded : Except GoError BootstrapResponse}

/-- Against a server that always refuses with one final status and a context that is never
done, every attempt calls the server: `remaining + 1` calls, `remaining` waits, and the error
of the last refusal. -/
private theorem retryBootstrap_refused (final : NonRetryable status)
    (answers : ∀ n, env.bootstrap n = .answered status body decoded) (patient : ∀ k, env.cancelled k = none)
    (request : BootstrapRequest) (remaining : Nat) (w : World) :
    retryBootstrap env request (remaining + 1) w =
      (.error ((bootstrapRefusal status body).wrap "max retry attempts (10) exceeded"),
        { w with calls := w.calls ++ List.replicate (remaining + 1) request, waits := w.waits + remaining }) := by
  have refused : callBootstrapAPI (.answered status body decoded) = .error (bootstrapRefusal status body) := by
    simp [callBootstrapAPI, final.ne_ok.1, bootstrapRefusal]
  induction remaining generalizing w with
  | zero => simp [retryBootstrap, answers, refused]
  | succ remaining ih =>
    rw [retryBootstrap]
    simp only [answers, refused, Nat.add_one_ne_zero, if_false, patient, ih]
    simp only [List.append_assoc, List.singleton_append, ← List.replicate_succ, Nat.add_right_comm w.waits 1,
      Nat.add_assoc w.waits remaining 1]

end Bootstrap

namespace Pipeline

section Sender

variable {env : FlushEnv} {batch : TelemetryBatch} {status : Nat} {text : Nat → String}

/-- Against a server that refuses every POST of a batch that encodes with one final status,
and a context that is never done, the loop posts `remaining + 1` times from `attempt` on and
returns the last refusal. -/
private theorem retry_refused (final : NonRetryable status) {body : Bytes} (encoded : batch.marshal = .ok body)
    (answers : ∀ i, env.attempt i = .answered status (text i)) (patient : ∀ i, env.cancelled i = none) :
    ∀ remaining attempt lastErr, retry batch env (remaining + 1) attempt lastErr =
      .error ((sendRefusal status (text (attempt + remaining))).wrap "all retry attempts failed") := by
  have refused : ∀ i, sendBatch batch (env.attempt i) = .error (sendRefusal status (text i)) := by
    intro i
    simp [sendBatch, encoded, answers, final.ne_ok.1, final.ne_ok.2, sendRefusal]
  intro remaining
  induction remaining with
  | zero => intro attempt lastErr; simp [retry, patient, refused]
  | succ remaining ih =>
    intro attempt lastErr
    rw [retry]
    simp only [patient, ite_self, refused, ih, Nat.add_assoc, Nat.add_comm 1 remaining]

end Sender

end Pipeline

/-- Both loops retry a final 4xx status. A bootstrap server that always answers it is called
ten times, with nine waits between the calls, and `RetryWithBackoff` returns the tenth
refusal. A telemetry server that always answers it is posted the batch five times, and
`sendWithRetry` returns the fifth refusal, whose body only the fifth answer carries. -/
theorem final_statuses_retried {status : Nat} (final : NonRetryable status) :
    (∀ (env : SupervisorEnv) (body : String) (decoded : Except GoError BootstrapResponse)
        (request : BootstrapRequest) (w : World),
      (∀ n, env.bootstrap n = .answered status body decoded) → (∀ k, env.cancelled k = none) →
      retryBootstrap env request 10 w =
        (.error ((bootstrapRefusal status body).wrap "max retry attempts (10) exceeded"),
          { w with calls := w.calls ++ List.replicate 10 request, waits := w.waits + 9 })) ∧
    ∀ (env : FlushEnv) (batch : TelemetryBatch) (body : Bytes) (text : Nat → String),
      batch.marshal = .ok body → (∀ i, env.attempt i = .answered status (text i)) →
      (∀ i, env.cancelled i = none) →
      Pipeline.sendWithRetry batch env =
        .error ((sendRefusal status (text 4)).wrap "all retry attempts failed") :=
  ⟨fun _ _ _ request w answers patient => retryBootstrap_refused final answers patient request 9 w,
    fun _ _ _ _ encoded answers patient => Pipeline.retry_refused final encoded answers patient 4 0 none⟩

/-! ## A server that refuses the agent's credentials -/

/-- `sampleEnv` with a bootstrap server that answers 401 to every call. -/
def unauthorizedEnv : SupervisorEnv :=
  { Supervisor.sampleEnv "token-1" "agent-1" (fun _ => .complete 0) with
    bootstrap := fun _ => .answered 401 "invalid install token" (.error (GoError.new "EOF")) }

/-- A flush whose every POST is answered 401. -/
def unauthorizedFlush : FlushEnv :=
  { Pipeline.unavailable with attempt := fun i => .answered 401 ("attempt " ++ toString i) }

/-- The one-record batch of the sender's samples. -/
def cpuBatch : TelemetryBatch := ⟨asciiBytes "agent-1", Time.zero, some [Pipeline.cpuRecord]⟩

theorem final_statuses_retried_unauthorized :
    NonRetryable 401 ∧
      (retryBootstrap unauthorizedEnv ⟨"org-1", "token-1", "host-1", "linux", "amd64", "1.0.0"⟩ 10
        Supervisor.sampleWorld).2.calls.length = 10 ∧
      Pipeline.sendWithRetry cpuBatch unauthorizedFlush =
        .error ((sendRefusal 401 "attempt 4").wrap "all retry attempts failed") :=
  have retried := final_statuses_retried (by decide : NonRetryable 401)
  ⟨by decide, by rw [retried.1 unauthorizedEnv _ _ _ _ (fun _ => rfl) (fun _ => rfl)]; rfl,
    retried.2 unauthorizedFlush cpuBatch _ _ rfl (fun _ => rfl) (fun _ => rfl)⟩

end EndpointAgent
