import RemoteDev.Command.Administration
import RemoteDev.Proofs.Json.Object
import RemoteDev.Proofs.Record.Single

/-! Replies of the security analyzer. A command about a scan succeeds only with the document of an
object that reports success, and takes its answer from the members of it; a reply of several fields,
a field that is no document, a document that reports something else and one that lacks the answer
are failures of different kinds. -/
namespace RemoteDev

namespace Reply

variable {reply : Reply} {field : Bytes}

theorem analyzer_of_not_isSingle (h : ∀ field, ¬ reply.IsSingle field) :
    ∃ e, reply.analyzer = .error (.field e) := by
  obtain ⟨e, he⟩ := singleText_of_not_isSingle h
  exact ⟨e, by rw [analyzer, he]; rfl⟩

theorem analyzer_of_fault (h : reply.IsSingle field) {fault : Json.JsonFault}
    (hread : Json.read (Text.lossy field) = .error fault) :
    reply.analyzer = .error (.json (.malformed fault)) := by
  rw [analyzer, singleText_of_isSingle h, FieldError.lift, Except.mapError, ok_bind, hread]
  rfl

theorem analyzer_of_success (h : reply.IsSingle field) {json : Json}
    (hread : Json.read (Text.lossy field) = .ok json)
    (hstatus : json.memberText? "status" = some "success") : reply.analyzer = .ok json := by
  rw [analyzer, singleText_of_isSingle h, FieldError.lift, Except.mapError, ok_bind, hread,
    Except.mapError, ok_bind, hstatus]
  rfl

theorem analyzer_of_ne_success (h : reply.IsSingle field) {json : Json}
    (hread : Json.read (Text.lossy field) = .ok json)
    (hstatus : json.memberText? "status" ≠ some "success") :
    reply.analyzer = .error (.analyzer ((json.memberText? "status").getD "<missing>")
      ((json.memberText? "errormessage").getD "")) := by
  rw [analyzer, singleText_of_isSingle h, FieldError.lift, Except.mapError, ok_bind, hread,
    Except.mapError, ok_bind]
  split
  case h_1 hsuccess => exact absurd hsuccess hstatus
  case h_2 => rfl

theorem analyzer_eq_ok {json : Json} (h : reply.analyzer = .ok json) :
    ∃ field, reply.IsSingle field ∧ Json.read (Text.lossy field) = .ok json ∧
      json.memberText? "status" = some "success" := by
  obtain ⟨text, htext, hdocument⟩ := bind_eq_ok.1 h
  obtain ⟨found, hfound, hreport⟩ := bind_eq_ok.1 hdocument
  obtain ⟨field, hfield, rfl⟩ := singleText_eq_ok_iff.1 (mapError_eq_ok.1 htext)
  split at hreport
  case h_1 hstatus =>
    cases hreport
    exact ⟨field, hfield, mapError_eq_ok.1 hfound, hstatus⟩
  case h_2 => cases hreport

end Reply

namespace AnalyzerCommand

open Json

inductive Takes (members : List (String × Json)) : (c : AnalyzerCommand) → c.Result → Prop
  | scan {paths : String} {recursive : Bool} {cores : Nat} {id : Int}
      (h : HasWord members "id" id) : Takes members (.scan paths recursive cores) id
  | progress {id : Int} {p : ScanProgress} (total : HasWord members "totalfiles" p.totalFiles)
      (visited : HasWord members "filesvisitedcount" p.visitedFiles)
      (percentage : HasWord members "percentage" p.percentage)
      (updated : HasWord members "lastupdated" p.lastUpdated) : Takes members (.progress id) p
  | cancel {id : Int} : Takes members (.cancel id) ()
  | discard {id : Int} : Takes members (.discard id) ()

variable {c : AnalyzerCommand} {reply : Reply} {members : List (String × Json)}

def scanIn (report : Json) : Except JsonError Int := do
  let found ← report.words ["id"]
  wordNamed found "id"

def progressIn (report : Json) : Except JsonError ScanProgress := do
  let found ← report.words ["totalfiles", "filesvisitedcount", "percentage", "lastupdated"]
  let totalFiles ← wordNamed found "totalfiles"
  let visitedFiles ← wordNamed found "filesvisitedcount"
  let percentage ← wordNamed found "percentage"
  let lastUpdated ← wordNamed found "lastupdated"
  return { totalFiles, visitedFiles, percentage, lastUpdated }

theorem scanId_eq (reply : Reply) :
    reply.scanId = reply.analyzer >>= fun report => (scanIn report).mapError Failure.json := rfl

theorem scanProgress_eq (reply : Reply) :
    reply.scanProgress =
      reply.analyzer >>= fun report => (progressIn report).mapError Failure.json := rfl

theorem scanIn_eq_ok_iff (horder : InOrder members) {id : Int} :
    scanIn (.object members) = .ok id ↔ HasWord members "id" id := by
  rw [scanIn, bind_eq_ok]
  constructor
  · rintro ⟨found, hfound, hid⟩
    exact (wordNamed_eq_ok_iff hfound (by decide)).1 hid
  · intro hid
    have hnames : ∀ name ∈ ["id"], ∃ n, HasWord members name n := by simpa using ⟨id, hid⟩
    obtain ⟨found, hfound⟩ := exists_words horder hnames
    exact ⟨found, hfound, (wordNamed_eq_ok_iff hfound (by decide)).2 hid⟩

theorem progressIn_eq_ok_iff (horder : InOrder members) {p : ScanProgress} :
    progressIn (.object members) = .ok p ↔
      HasWord members "totalfiles" p.totalFiles ∧
      HasWord members "filesvisitedcount" p.visitedFiles ∧
      HasWord members "percentage" p.percentage ∧ HasWord members "lastupdated" p.lastUpdated := by
  simp only [progressIn, bind_eq_ok]
  constructor
  · rintro ⟨found, hfound, total, htotal, visited, hvisited, percentage, hpercentage, updated,
      hupdated, ⟨⟩⟩
    exact ⟨(wordNamed_eq_ok_iff hfound (by decide)).1 htotal,
      (wordNamed_eq_ok_iff hfound (by decide)).1 hvisited,
      (wordNamed_eq_ok_iff hfound (by decide)).1 hpercentage,
      (wordNamed_eq_ok_iff hfound (by decide)).1 hupdated⟩
  · rintro ⟨htotal, hvisited, hpercentage, hupdated⟩
    have hnames : ∀ name ∈ ["totalfiles", "filesvisitedcount", "percentage", "lastupdated"],
        ∃ n, HasWord members name n := by
      simpa using ⟨⟨_, htotal⟩, ⟨_, hvisited⟩, ⟨_, hpercentage⟩, ⟨_, hupdated⟩⟩
    obtain ⟨found, hfound⟩ := exists_words horder hnames
    exact ⟨found, hfound, _, (wordNamed_eq_ok_iff hfound (by decide)).2 htotal,
      _, (wordNamed_eq_ok_iff hfound (by decide)).2 hvisited,
      _, (wordNamed_eq_ok_iff hfound (by decide)).2 hpercentage,
      _, (wordNamed_eq_ok_iff hfound (by decide)).2 hupdated, rfl⟩

/-- The answer that a command takes from a report of success, or what the report lacks for it. -/
theorem exists_taken (hc : ∀ id, c ≠ .findings id) (horder : InOrder members)
    (h : reply.analyzer = .ok (.object members)) :
    ∃ outcome : Except JsonError c.Result, c.decode reply = outcome.mapError Failure.json ∧
      ∀ x, outcome = .ok x ↔ c.Takes members x := by
  cases c with
  | scan paths recursive cores =>
    have hdecode : reply.scanId = (scanIn (.object members)).mapError Failure.json := by
      rw [scanId_eq, h, ok_bind]
    refine ⟨_, hdecode, fun id => (scanIn_eq_ok_iff horder).trans ⟨.scan, fun h => ?_⟩⟩
    cases h with
    | scan hid => exact hid
  | progress id =>
    have hdecode : reply.scanProgress = (progressIn (.object members)).mapError Failure.json := by
      rw [scanProgress_eq, h, ok_bind]
    refine ⟨_, hdecode, fun p => (progressIn_eq_ok_iff horder).trans ⟨?_, ?_⟩⟩
    · rintro ⟨htotal, hvisited, hpercentage, hupdated⟩
      exact .progress htotal hvisited hpercentage hupdated
    · intro h
      cases h with
      | progress htotal hvisited hpercentage hupdated =>
        exact ⟨htotal, hvisited, hpercentage, hupdated⟩
  | cancel id =>
    refine ⟨.ok (), ?_, fun x => iff_of_true rfl .cancel⟩
    rw [decode, h]
    rfl
  | discard id =>
    refine ⟨.ok (), ?_, fun x => iff_of_true rfl .discard⟩
    rw [decode, h]
    rfl
  | findings id => exact absurd rfl (hc id)

theorem decode_of_analyzer_error (hc : ∀ id, c ≠ .findings id) {f : Failure}
    (h : reply.analyzer = .error f) : c.decode reply = .error f := by
  cases c with
  | scan paths recursive cores => rw [decode, Reply.scanId, h]; rfl
  | progress id => rw [decode, Reply.scanProgress, h]; rfl
  | cancel id => rw [decode, h]; rfl
  | discard id => rw [decode, h]; rfl
  | findings id => exact absurd rfl (hc id)

/-- How a command tells replies apart. -/
structure TellsApart (c : AnalyzerCommand) (reply : Reply) : Prop where
  /-- It succeeds exactly with an object whose status is success, and takes its answer from it. -/
  success (x : c.Result) : c.decode reply = .ok x ↔ ∃ field members, reply.IsSingle field ∧
    Json.read (Text.lossy field) = .ok (.object members) ∧
    members.lookup "status" = some (.text "success") ∧ c.Takes members x
  notSingle : (∀ field, ¬ reply.IsSingle field) → ∃ e, c.decode reply = .error (.field e)
  notRead {field : Bytes} {fault : JsonFault} : reply.IsSingle field →
    Json.read (Text.lossy field) = .error fault →
    c.decode reply = .error (.json (.malformed fault))
  /-- Any other document is one without success, be it an object or not. -/
  notSuccess {field : Bytes} {json : Json} : reply.IsSingle field →
    Json.read (Text.lossy field) = .ok json → json.memberText? "status" ≠ some "success" →
    c.decode reply = .error (.analyzer ((json.memberText? "status").getD "<missing>")
      ((json.memberText? "errormessage").getD ""))
  lacking {field : Bytes} {members : List (String × Json)} : reply.IsSingle field →
    Json.read (Text.lossy field) = .ok (.object members) →
    members.lookup "status" = some (.text "success") → (∀ x, ¬ c.Takes members x) →
    ∃ e, c.decode reply = .error (.json e)

theorem tellsApart (hc : ∀ id, c ≠ .findings id) (reply : Reply) : c.TellsApart reply where
  success x := by
    constructor
    · intro hx
      cases hreply : reply.analyzer with
      | error f =>
        rw [decode_of_analyzer_error hc hreply] at hx
        cases hx
      | ok json =>
        obtain ⟨field, hfield, hread, hstatus⟩ := Reply.analyzer_eq_ok hreply
        obtain ⟨members, rfl, hlookup⟩ := memberText?_eq_some_iff.1 hstatus
        obtain ⟨outcome, houtcome, htakes⟩ := exists_taken hc (inOrder_of_read hread) hreply
        rw [houtcome, mapError_eq_ok] at hx
        exact ⟨field, members, hfield, hread, hlookup, (htakes x).1 hx⟩
    · rintro ⟨field, members, hfield, hread, hlookup, hx⟩
      have hreply := Reply.analyzer_of_success hfield hread
        (memberText?_eq_some_iff.2 ⟨members, rfl, hlookup⟩)
      obtain ⟨outcome, houtcome, htakes⟩ := exists_taken hc (inOrder_of_read hread) hreply
      rw [houtcome, mapError_eq_ok]
      exact (htakes x).2 hx
  notSingle hsingle := by
    obtain ⟨e, he⟩ := Reply.analyzer_of_not_isSingle hsingle
    exact ⟨e, decode_of_analyzer_error hc he⟩
  notRead hfield hread := decode_of_analyzer_error hc (Reply.analyzer_of_fault hfield hread)
  notSuccess hfield hread hstatus :=
    decode_of_analyzer_error hc (Reply.analyzer_of_ne_success hfield hread hstatus)
  lacking {field members} hfield hread hlookup hnone := by
    have hreply := Reply.analyzer_of_success hfield hread
      (memberText?_eq_some_iff.2 ⟨members, rfl, hlookup⟩)
    obtain ⟨outcome, houtcome, htakes⟩ := exists_taken hc (inOrder_of_read hread) hreply
    rw [houtcome]
    exact exists_mapError_eq_error _ fun x hx => hnone x ((htakes x).1 hx)

end AnalyzerCommand
end RemoteDev
