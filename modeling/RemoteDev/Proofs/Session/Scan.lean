import RemoteDev.Proofs.Record.Analyzer
import RemoteDev.Proofs.Session.Refusal

/-! Commands about security scans, from their exchange to their outcome. The stream, the message,
its field, the document in the field and the report in the document may each fail the command, and
each does so with a failure of its own. -/
namespace RemoteDev.Session

variable {σ : Type} {t : Transport σ} {s : Session σ} {c : AnalyzerCommand}

theorem settle_analyzer (outcome : Except Failure (Command.analyzer c).Result) :
    Command.settle (.analyzer c) outcome = outcome := by
  cases outcome <;> rfl

theorem run_analyzer_eq : (s.run t (.analyzer c)).1 =
    (replyTo t s.endpoint (Command.analyzer c).request s.stream).1.bind c.decode := by
  rw [run_eq]
  exact settle_analyzer _

theorem run_analyzer_of_delivers {raw : Bytes} (h : Delivers t s (.analyzer c) raw) :
    (s.run t (.analyzer c)).1 = (Reply.parse raw).bind c.decode := by
  rw [run_analyzer_eq, replyTo_of_delivers h]

theorem run_analyzer_of_interruption {request : Request} {e : TransportError}
    (hrequest : c.request = .ok request)
    (h : (t.exchange s.endpoint.host s.endpoint.port (messageOf s.endpoint request) s.stream).1 =
      .error e) : (s.run t (.analyzer c)).1 = .error (.transport e) := by
  rw [run_analyzer_eq, replyTo_of_interruption (c := .analyzer c) hrequest h]
  rfl

theorem run_analyzer_eq_ok_iff {x : c.Result} :
    (s.run t (.analyzer c)).1 = .ok x ↔
      ∃ raw reply, Delivers t s (.analyzer c) raw ∧ Reply.parse raw = .ok reply ∧
        c.decode reply = .ok x := by
  constructor
  · intro h
    rw [run_analyzer_eq] at h
    rcases replyTo_cases t s (.analyzer c) with
      ⟨f, -, hreply⟩ | ⟨request, e, -, -, hreply⟩ | ⟨raw, hdelivers, hreply⟩
    · rw [hreply] at h
      cases h
    · rw [hreply] at h
      cases h
    · rw [hreply] at h
      obtain ⟨reply, hparse, hx⟩ := bind_eq_ok.1 h
      exact ⟨raw, reply, hdelivers, hparse, hx⟩
  · rintro ⟨raw, reply, hdelivers, hparse, hx⟩
    rw [run_analyzer_of_delivers hdelivers, hparse]
    exact hx

/-- A command about a scan succeeds exactly with a delivered reply that it accepts. A failure of the
stream and one to read the message are its outcome, and otherwise its outcome is what it makes of
the reply. It tells all replies apart, by the members that count, of each name the last one that is
written. -/
theorem scan_answered (t : Transport σ) (s : Session σ) {c : AnalyzerCommand}
    (hc : ∀ id, c ≠ .findings id) :
    (∀ x, (s.run t (.analyzer c)).1 = .ok x ↔
      ∃ raw reply, Delivers t s (.analyzer c) raw ∧ Reply.parse raw = .ok reply ∧
        c.decode reply = .ok x) ∧
    (∀ request e, c.request = .ok request →
      (t.exchange s.endpoint.host s.endpoint.port (messageOf s.endpoint request) s.stream).1 =
        .error e → (s.run t (.analyzer c)).1 = .error (.transport e)) ∧
    (∀ raw f, Delivers t s (.analyzer c) raw → Reply.parse raw = .error f →
      (s.run t (.analyzer c)).1 = .error f) ∧
    (∀ raw reply, Delivers t s (.analyzer c) raw → Reply.parse raw = .ok reply →
      (s.run t (.analyzer c)).1 = c.decode reply) ∧
    (∀ reply, c.TellsApart reply) ∧
    ∀ text members, Json.read text = .ok (.object members) →
      ∃ written, Json.WritesObject text.toList written ∧
        ∀ name, members.lookup name = written.reverse.lookup name := by
  refine ⟨fun x => run_analyzer_eq_ok_iff, fun request e => run_analyzer_of_interruption,
    fun raw f hdelivers hparse => ?_, fun raw reply hdelivers hparse => ?_,
    AnalyzerCommand.tellsApart hc, fun text members hread => ?_⟩
  · rw [run_analyzer_of_delivers hdelivers, hparse]
    rfl
  · rw [run_analyzer_of_delivers hdelivers, hparse]
    rfl
  · obtain ⟨written, hwritten, rfl⟩ := Json.exists_written hread
    exact ⟨written, hwritten, Json.lookup_counted written⟩

/-- Two members are a status, of which the first reports a failure; the second one, written with an
escape, counts. -/
theorem scan_answered_of_two_statuses :
    let document := "\x7b\"status\":\"failed\",\"id\":7,\"\\u0073tatus\":\"success\"\x7d"
    let raw := Reply.written (encodeText "HTTP/1.1 200 OK") [encodeText document]
    let s : Session Stage := ⟨⟨"cf.local", 8500, "", "", by decide, by decide⟩,
      { scripts := [{ reply := raw }] }, none⟩
    let c : AnalyzerCommand := .scan "/x" true 1
    (∀ id, c ≠ .findings id) ∧ Delivers .scripted s (.analyzer c) raw ∧
      (∃ members, Json.read document = .ok (.object members) ∧
        members.lookup "status" = some (.text "success") ∧ c.Takes members (7 : Int)) ∧
      (s.run .scripted (.analyzer c)).1 = .ok (7 : Int) := by
  intro document raw s c
  have hc (id : Int) : c ≠ .findings id := by simp [c]
  have hdelivers : Delivers .scripted s (.analyzer c) raw :=
    delivers_scripted (c := .analyzer c) rfl rfl
  have hparse : Reply.parse raw = .ok (Reply.ofFields [encodeText document]) :=
    Reply.parse_written ⟨_, List.mem_cons_self, by decide⟩ (by decide) (by decide +kernel)
  have hsingle : (Reply.ofFields [encodeText document]).IsSingle (encodeText document) :=
    Reply.isSingle_ofFields (by decide +kernel)
  have hmembers : ∃ members, Json.read document = .ok (.object members) ∧
      members.lookup "status" = some (.text "success") ∧ c.Takes members (7 : Int) := by
    have hstatus : ((Json.read document).toOption.bind fun json => json.memberText? "status") =
        some "success" := by decide +kernel
    have hid : ((Json.read document).toOption.bind fun json =>
        (AnalyzerCommand.scanIn json).toOption) = some 7 := by decide +kernel
    obtain ⟨json, hjson, hsuccess⟩ := Option.bind_eq_some_iff.1 hstatus
    rw [hjson, Option.bind_some, toOption_eq_some_iff] at hid
    have hread := toOption_eq_some_iff.1 hjson
    obtain ⟨members, rfl, hlookup⟩ := Json.memberText?_eq_some_iff.1 hsuccess
    have horder := Json.inOrder_of_read hread
    exact ⟨members, hread, hlookup, .scan ((AnalyzerCommand.scanIn_eq_ok_iff horder).1 hid)⟩
  obtain ⟨members, hread, hstatus, htakes⟩ := hmembers
  obtain ⟨houtcome, -, -, -, htells, -⟩ := scan_answered .scripted s hc
  have hshown : Json.read (Text.lossy (encodeText document)) = .ok (.object members) := by
    rw [Text.lossy_encodeText, hread]
  have hdecode : c.decode (Reply.ofFields [encodeText document]) = .ok (7 : Int) :=
    ((htells _).success (7 : Int)).2 ⟨_, members, hsingle, hshown, hstatus, htakes⟩
  have hrun := (houtcome (7 : Int)).2 ⟨raw, _, hdelivers, hparse, hdecode⟩
  exact ⟨hc, hdelivers, ⟨members, hread, hstatus, htakes⟩, hrun⟩

end RemoteDev.Session
