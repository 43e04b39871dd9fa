import RemoteDev.Proofs.Outcome
import RemoteDev.Proofs.Session.Calls
import RemoteDev.Proofs.Transport.Scripts

/-! Commands one after the other on a session. After each of them the session says how that
command ended, whatever the ones before it have done. Over a stream that plays a script for each
connection, a command does what it would do as the first one with that script. -/
namespace RemoteDev

variable {σ : Type}

structure Ran (σ : Type) where
  command : Command
  outcome : Except Failure command.Result
  after : Session σ

/-- What a session says of the command that was run last. -/
structure Ran.Reported (d : Ran σ) : Prop where
  report_none : d.after.report = none ↔ ∃ x, d.outcome = .ok x
  report_some : ∀ r, d.after.report = some r ↔ ∃ f, d.outcome = .error f ∧ r = f.report
  status_ok : d.after.status = .ok ↔ ∃ x, d.outcome = .ok x

namespace Session

def history (t : Transport σ) : Session σ → List Command → List (Ran σ)
  | _, [] => []
  | s, c :: r => ⟨c, (s.run t c).1, (s.run t c).2⟩ :: history t (s.run t c).2 r

theorem command_history (t : Transport σ) (s : Session σ) (cs : List Command) :
    (s.history t cs).map Ran.command = cs := by
  induction cs generalizing s with
  | nil => rfl
  | cons c r ih => rw [history, List.map_cons, ih]

theorem status_eq_ok_iff {s : Session σ} {α : Type} {outcome : Except Failure α}
    (h : s.report = reportOf outcome) : s.status = .ok ↔ ∃ x, outcome = .ok x := by
  cases outcome with
  | ok x =>
    have hnone : s.report = none := h
    simp [status, hnone]
  | error f =>
    have hsome : s.report = some f.report := h
    have hstatus : f.report.status ≠ .ok := f.status_ne_ok
    simpa [status, hsome] using hstatus

theorem reported_run (t : Transport σ) (s : Session σ) (c : Command) :
    Ran.Reported ⟨c, (s.run t c).1, (s.run t c).2⟩ where
  report_none := by
    rw [report_run]
    cases (s.run t c).1 <;> simp [reportOf]
  report_some r := by
    rw [report_run]
    cases (s.run t c).1 <;> simp [reportOf, eq_comm]
  status_ok := status_eq_ok_iff (report_run t s c)

/-- After every command of a run there is a report exactly if that command failed, namely the
report of its failure, and the status tells the two apart. A probe that finds nothing is no
failure. -/
theorem reported_of_mem_history (t : Transport σ) (s : Session σ) (cs : List Command) :
    (s.history t cs).map Ran.command = cs ∧
      (∀ d ∈ s.history t cs, d.Reported) ∧
      ∀ path after, ⟨.file (.probe path), .ok false, after⟩ ∈ s.history t cs →
        after.report = none ∧ after.status = .ok := by
  have hall : ∀ d ∈ s.history t cs, d.Reported := by
    induction cs generalizing s with
    | nil => exact fun d hd => absurd hd List.not_mem_nil
    | cons c r ih =>
      rw [history]
      intro d hd
      rcases List.mem_cons.1 hd with rfl | hd
      · exact reported_run t s c
      · exact ih (s.run t c).2 d hd
  refine ⟨command_history t s cs, hall, ?_⟩
  intro path after hmem
  have hreported := hall _ hmem
  exact ⟨hreported.report_none.2 ⟨_, rfl⟩, hreported.status_ok.2 ⟨_, rfl⟩⟩

/-- The server's word that nothing is at a path answers a probe. -/
example : Command.settle (.file (.probe "/x"))
    (.error (.server (-1) "The system cannot find the path specified: /x")) = .ok false := by
  rfl

/-- A host that is not found, then a path that is missing: the second failure is reported in
place of the first. -/
theorem reported_of_mem_history_of_two_failures :
    let s : Session Unit := ⟨⟨"cf.local", 8500, "", "", by decide, by decide⟩, (), none⟩
    let lost := s.run .unconnected (.file .root)
    let missing := lost.2.run .unconnected (.file (.read ""))
    lost.2.status = .hostNotFound ∧ missing.2.status = .paramMissing ∧
      Ran.Reported ⟨.file (.read ""), missing.1, missing.2⟩ := by
  have hlast (s : Session Unit) (c₁ c₂ : Command) :=
    (reported_of_mem_history .unconnected s [c₁, c₂]).2.1 _
      (List.mem_cons_of_mem _ List.mem_cons_self)
  exact ⟨rfl, rfl, hlast _ _ _⟩

section Independence

variable {t : Transport σ} {R : σ → σ → Prop}

theorem agree_ask (hR : t.IsBisimulation R) {e : Endpoint} {a b : σ}
    (h : Agree R (t.connect e.host e.port a) (t.connect e.host e.port b)) (request : Request) :
    Agree R (ask t e request a) (ask t e request b) := by
  obtain ⟨outcome, a', b', ha, hb, hstates⟩ :=
    (hR.exchange h (messageOf e request)).exists_eq
  rw [ask, ask, ha, hb]
  cases outcome with
  | error error => exact ⟨rfl, hstates⟩
  | ok reply => exact ⟨rfl, hstates⟩

/-- Replies agree from states in which connecting agrees. Without a request the states are left as
they are, so all that is known of them is what was known before. -/
theorem agree_replyTo {Q : σ → σ → Prop} (hR : t.IsBisimulation R) (hQ : ∀ a b, R a b → Q a b)
    {e : Endpoint} {a b : σ} (hab : Q a b)
    (h : Agree R (t.connect e.host e.port a) (t.connect e.host e.port b))
    (request : Except Failure Request) :
    Agree Q (replyTo t e request a) (replyTo t e request b) := by
  cases request with
  | error failure => exact ⟨rfl, hab⟩
  | ok request => exact (agree_ask hR h request).mono hQ

theorem run_agree (hR : t.IsBisimulation R) {s s' : Session σ} (he : s.endpoint = s'.endpoint)
    (h : Agree R (t.connect s.endpoint.host s.endpoint.port s.stream)
      (t.connect s.endpoint.host s.endpoint.port s'.stream)) (c : Command) :
    (s.run t c).1 = (s'.run t c).1 ∧ s.callsOf t c = s'.callsOf t c := by
  constructor
  · obtain ⟨hreply, -⟩ := agree_replyTo (Q := fun _ _ => True) hR (fun _ _ _ => trivial) trivial h
      c.request
    rw [run_eq, run_eq]
    simp only [← he, hreply]
  · have hrecorded : Agree (fun a b => R a.1 b.1 ∧ a.2 = b.2)
        (t.recorded.connect s.endpoint.host s.endpoint.port (s.stream, []))
        (t.recorded.connect s.endpoint.host s.endpoint.port (s'.stream, [])) :=
      ⟨h.1, h.2, by simp only [Transport.recorded, h.1]⟩
    obtain ⟨-, hcalls⟩ := agree_replyTo (Q := fun a b => a.2 = b.2) hR.recorded
      (fun _ _ hab => hab.2) rfl hrecorded c.request
    rw [callsOf, callsOf, run_eq, run_eq]
    simp only [withCalls, ← he]
    exact hcalls

def after (t : Transport σ) (s : Session σ) (history : List Command) : Session σ :=
  history.foldl (fun s c => (s.run t c).2) s

@[simp] theorem endpoint_after (s : Session σ) (history : List Command) :
    (s.after t history).endpoint = s.endpoint := by
  induction history generalizing s with
  | nil => rfl
  | cons c history ih =>
    rw [after, List.foldl_cons]
    exact (ih (s.run t c).2).trans (endpoint_run t s c)

variable {π : Type} {scripts : σ → List π}

theorem scripts_run (ht : t.PlaysScripts scripts) (s : Session σ) (c : Command) :
    scripts (s.run t c).2.stream =
      (scripts s.stream).drop (if c.request.isOk then 1 else 0) := by
  rw [run_eq]
  cases c.request with
  | error failure => rfl
  | ok request =>
    have hexchange := ht.scripts_exchange s.endpoint.host s.endpoint.port
      (messageOf s.endpoint request) s.stream
    simp only [replyTo, ask, isOk_ok, if_true, List.drop_one, ← hexchange]
    rcases t.exchange s.endpoint.host s.endpoint.port (messageOf s.endpoint request) s.stream with
      ⟨error | reply, stream'⟩
    · rfl
    · rfl

theorem scripts_after (ht : t.PlaysScripts scripts) (s : Session σ) (history : List Command) :
    scripts (s.after t history).stream =
      (scripts s.stream).drop (history.countP fun c => c.request.isOk) := by
  induction history generalizing s with
  | nil => rfl
  | cons c history ih =>
    rw [after, List.foldl_cons]
    refine (ih (s.run t c).2).trans ?_
    rw [scripts_run ht, List.drop_drop, List.countP_cons, Nat.add_comm]

/-- After any commands, whatever became of them, a command yields, reports and does what it would as
the first command on a session of its own to the same endpoint with the same next script. The
commands before it have used up one script each, if they were sent, and left the endpoint alone. -/
theorem run_after (ht : t.PlaysScripts scripts) (s fresh : Session σ) (history : List Command)
    (c : Command) (he : fresh.endpoint = s.endpoint)
    (hnext : (scripts fresh.stream).head? = (scripts (s.after t history).stream).head?) :
    ((s.after t history).run t c).1 = (fresh.run t c).1 ∧
      ((s.after t history).run t c).2.report = (fresh.run t c).2.report ∧
      (s.after t history).callsOf t c = fresh.callsOf t c ∧
      scripts (s.after t history).stream =
        (scripts s.stream).drop (history.countP fun c => c.request.isOk) ∧
      (s.after t history).endpoint = s.endpoint ∧
      ((s.after t history).run t c).2.endpoint = s.endpoint := by
  have hendpoint : (s.after t history).endpoint = s.endpoint := endpoint_after s history
  obtain ⟨R, hR, hconnect⟩ := ht.connect s.endpoint.host s.endpoint.port hnext.symm
  obtain ⟨houtcome, hcalls⟩ := run_agree hR (hendpoint.trans he.symm)
    (hendpoint.symm ▸ hconnect) c
  refine ⟨houtcome, ?_, hcalls, scripts_after ht s history, hendpoint, ?_⟩
  · rw [report_run, report_run, houtcome]
  · rw [endpoint_run, hendpoint]

/-- A command that breaks off in the middle of a reply and one that is not sent, before a probe. -/
theorem run_after_of_broken_reply :
    let e : Endpoint := ⟨"cf.local", 8500, "admin", "secret", by decide, by decide⟩
    let broken : Script :=
      { reply := encodeText "HTTP/1.1 200 OK\r\n\r\n3:5:hel", writeLimit := some 7,
        readLimit := some 4, readStop := some 23, readError := some .notConnected }
    let next : Script := { reply := encodeText "HTTP/1.1 200 OK\r\n\r\n0:" }
    let s : Session Stage := ⟨e, { scripts := [broken, next] }, none⟩
    let fresh : Session Stage := ⟨e, { scripts := [next] }, none⟩
    let history : List Command := [.file (.read "/a"), .file (.read "")]
    let c : Command := .file (.probe "/b")
    Transport.scripted.PlaysScripts Stage.scripts ∧ fresh.endpoint = s.endpoint ∧
      fresh.stream.scripts.head? = (s.after .scripted history).stream.scripts.head? ∧
      ((s.after .scripted history).run .scripted c).1 = (fresh.run .scripted c).1 ∧
      (s.after .scripted history).callsOf .scripted c = fresh.callsOf .scripted c := by
  intro e broken next s fresh history c
  have hplays := Transport.playsScripts_scripted
  have hnext : fresh.stream.scripts.head? = (s.after .scripted history).stream.scripts.head? := by
    rw [scripts_after hplays]
    rfl
  obtain ⟨houtcome, -, hcalls, -⟩ := run_after hplays s fresh history c rfl hnext
  exact ⟨hplays, rfl, hnext, houtcome, hcalls⟩

end Independence

end Session
end RemoteDev
