import RemoteDev.Proofs.Command.Parameters
import RemoteDev.Proofs.Separator
import RemoteDev.Proofs.Text.Numeral
import RemoteDev.Proofs.Text.Utf8

/-! The form of a command on the wire: its family and its arguments in order. Commands to the
debugger carry a document and are left out. All other commands that can be sent are requests of
their form, and a form belongs to one command only, save that the name and the path of a mapping
share an argument. -/
namespace RemoteDev

open Text

theorem required_eq_ok {name value : String} (h : value ≠ "") :
    required name value = .ok value := required_eq_ok_iff.2 ⟨h, rfl⟩

namespace FileCommand

def family : FileCommand → Family
  | browse _ => .browse
  | _ => .files

theorem family_eq (c : FileCommand) : c.family = .browse ∨ c.family = .files := by
  cases c <;> simp [family]

def arguments : FileCommand → List Bytes
  | browse path => [encodeText path, []]
  | read path => [encodeText path, encodeText "READ", []]
  | write path data => [encodeText path, encodeText "WRITE", [], data]
  | rename current new => [encodeText current, encodeText "RENAME", [], encodeText new]
  | removeFile path => [encodeText path, encodeText "REMOVE", [], encodeText "F"]
  | removeDirectory path => [encodeText path, encodeText "REMOVE", [], encodeText "D"]
  | probe path => [encodeText path, encodeText "EXISTENCE", [], []]
  | createDirectory path => [encodeText path, encodeText "CREATE", [], []]
  | root => [[], encodeText "CF_DIRECTORY"]

theorem request_eq_of_notMem {c : FileCommand} (h : "" ∉ c.requiredTexts) :
    c.request = .ok (.ofFamily c.family c.arguments) := by
  cases c <;>
    simp_all [requiredTexts, request, onPath, required_eq_ok, ok_bind, family, arguments,
      Request.ofTexts, pure, Except.pure]

theorem form_inj {c c' : FileCommand} (hfamily : c.family = c'.family)
    (harguments : c.arguments = c'.arguments) : c = c' := by
  cases c <;> cases c' <;> simp_all [family, arguments, encodeText_inj]

end FileCommand

namespace DataSourceCommand

def arguments : DataSourceCommand → List Bytes
  | names => [[], encodeText "DSNINFO"]
  | tables source => [encodeText source, encodeText "TABLEINFO"]
  | columns source table => [encodeText source, encodeText "COLUMNINFO", encodeText table]
  | primaryKeys source table => [encodeText source, encodeText "PRIMARYKEYS", encodeText table]
  | foreignKeys source table => [encodeText source, encodeText "FOREIGNKEYS", encodeText table]
  | importedKeys source table => [encodeText source, encodeText "IMPORTEDKEYS", encodeText table]
  | exportedKeys source table => [encodeText source, encodeText "EXPORTEDKEYS", encodeText table]
  | statement source sql => [encodeText source, encodeText "SQLSTMNT", encodeText sql]
  | metadata source sql => [encodeText source, encodeText "SQLMETADATA", encodeText sql]
  | supportedCommands => [[], encodeText "SUPPORTEDCOMMANDS"]
  | description source => [encodeText source, encodeText "DBDESCRIPTION"]

theorem request_eq_of_notMem {c : DataSourceCommand} (h : "" ∉ c.requiredTexts) :
    c.request = .ok (.ofFamily .dataSources c.arguments) := by
  cases c <;>
    simp_all [requiredTexts, request, onSource, withParameter, required_eq_ok, ok_bind, arguments,
      Request.ofTexts, pure, Except.pure]

theorem arguments_inj {c c' : DataSourceCommand} (h : c.arguments = c'.arguments) : c = c' := by
  cases c <;> cases c' <;> simp_all [arguments, encodeText_inj]

end DataSourceCommand

namespace AnalyzerCommand

def arguments : AnalyzerCommand → List Bytes
  | scan paths recursive cores =>
    [encodeText "scan", encodeText paths, encodeText (if recursive then "true" else "false"),
      encodeText (decimalText cores)]
  | cancel id => [encodeText "cancel", encodeText (signedText id)]
  | progress id => [encodeText "status", encodeText (signedText id)]
  | findings id => [encodeText "result", encodeText (signedText id)]
  | discard id => [encodeText "clean", encodeText (signedText id)]

theorem request_eq_of_notMem {c : AnalyzerCommand} (h : "" ∉ c.requiredTexts) :
    c.request = .ok (.ofFamily .analyzer c.arguments) := by
  cases c <;>
    simp_all [requiredTexts, request, onScan, required_eq_ok, ok_bind, arguments,
      Request.ofTexts, pure, Except.pure]

theorem arguments_inj {c c' : AnalyzerCommand} (h : c.arguments = c'.arguments) : c = c' := by
  cases c <;> cases c'
  case scan.scan paths recursive cores paths' recursive' cores' =>
    cases recursive <;> cases recursive' <;>
      simp_all [arguments, encodeText_inj, decimalText_inj]
  all_goals simp_all [arguments, encodeText_inj, signedText_inj]

end AnalyzerCommand

namespace AdminCommand

def family : AdminCommand → Family
  | handshake _ => .ideDefault
  | _ => .adminApi

theorem family_eq (c : AdminCommand) : c.family = .ideDefault ∨ c.family = .adminApi := by
  cases c <;> simp [family]

def mappingSeparator : String := ";path:"

def arguments : AdminCommand → List Bytes
  | handshake version => [[], encodeText (signedText version ++ ",")]
  | logProperty property =>
    [encodeText "cfide.adminapi.debugging", encodeText "getlogproperty", encodeText property]
  | tagPaths => [encodeText "cfide.adminapi.extensions", encodeText "getcustomtagpaths"]
  | setMapping name path =>
    [encodeText "cfide.adminapi.extensions", encodeText "setmappings",
      encodeText ("name:" ++ name ++ mappingSeparator ++ path)]
  | deleteMapping name =>
    [encodeText "cfide.adminapi.extensions", encodeText "deletemappings", encodeText name]
  | mappings => [encodeText "cfide.adminapi.extensions", encodeText "getmappings"]

theorem request_eq_of_notMem {c : AdminCommand} (h : "" ∉ c.requiredTexts) :
    c.request = .ok (.ofFamily c.family c.arguments) := by
  cases c <;>
    simp_all [requiredTexts, request, required_eq_ok, ok_bind, family, arguments, debugging,
      extensions, mappingSeparator, Request.ofTexts, pure, Except.pure]

/-- Two mappings whose names and paths read the same when they are joined. -/
def SharesMapping (c c' : AdminCommand) : Prop :=
  ∃ name path name' path', c = setMapping name path ∧ c' = setMapping name' path' ∧
    name ++ mappingSeparator ++ path = name' ++ mappingSeparator ++ path'

theorem form_inj {c c' : AdminCommand} (hfamily : c.family = c'.family)
    (harguments : c.arguments = c'.arguments) : c = c' ∨ c.SharesMapping c' := by
  cases c <;> cases c'
  case setMapping.setMapping name path name' path' =>
    have hjoined : "name:" ++ (name ++ mappingSeparator ++ path) =
        "name:" ++ (name' ++ mappingSeparator ++ path') := by
      simpa [arguments, encodeText_inj, String.append_assoc] using harguments
    exact .inr ⟨name, path, name', path', rfl, rfl, (String.append_right_inj _).1 hjoined⟩
  all_goals simp_all [family, arguments, encodeText_inj, signedText_inj]

theorem form_eq_of_sharesMapping {c c' : AdminCommand} (h : c.SharesMapping c') :
    c.family = c'.family ∧ c.arguments = c'.arguments := by
  obtain ⟨name, path, name', path', rfl, rfl, hjoined⟩ := h
  refine ⟨rfl, ?_⟩
  have hargument : "name:" ++ name ++ mappingSeparator ++ path =
      "name:" ++ name' ++ mappingSeparator ++ path' := by
    simpa only [String.append_assoc] using congrArg ("name:" ++ ·) hjoined
  rw [arguments, arguments, hargument]

end AdminCommand

namespace Command

/-- The form of a command. Commands to the debugger have none, as their parameters travel in a
document. -/
def form? : Command → Option (Family × List Bytes)
  | file c => some (c.family, c.arguments)
  | dataSource c => some (.dataSources, c.arguments)
  | debugger _ => none
  | analyzer c => some (.analyzer, c.arguments)
  | admin c => some (c.family, c.arguments)

theorem request_of_form {c : Command} {family : Family} {arguments : List Bytes}
    (hform : c.form? = some (family, arguments)) (h : ¬ c.LacksParameter) :
    c.request = .ok (.ofFamily family arguments) := by
  have htexts : "" ∉ c.requiredTexts := fun hmem => h (.inl hmem)
  cases c with
  | file c =>
    cases hform
    exact c.request_eq_of_notMem htexts
  | dataSource c =>
    cases hform
    exact c.request_eq_of_notMem htexts
  | debugger c => cases hform
  | analyzer c =>
    cases hform
    exact c.request_eq_of_notMem htexts
  | admin c =>
    cases hform
    exact c.request_eq_of_notMem htexts

def SharesMapping (c c' : Command) : Prop :=
  ∃ a a', c = .admin a ∧ c' = .admin a' ∧ a.SharesMapping a'

/-- A form belongs to one command only, or to mappings that share their argument. -/
theorem form?_eq_some_iff {c c' : Command} {form : Family × List Bytes}
    (h : c.form? = some form) : c'.form? = some form ↔ c = c' ∨ c.SharesMapping c' := by
  constructor
  · intro h'
    have hsame := h.trans h'.symm
    cases c <;> cases c'
    case file.file a a' =>
      obtain ⟨hfamily, harguments⟩ := Prod.mk.inj (Option.some.inj hsame)
      exact .inl (congrArg file (FileCommand.form_inj hfamily harguments))
    case dataSource.dataSource a a' =>
      obtain ⟨-, harguments⟩ := Prod.mk.inj (Option.some.inj hsame)
      exact .inl (congrArg dataSource (DataSourceCommand.arguments_inj harguments))
    case analyzer.analyzer a a' =>
      obtain ⟨-, harguments⟩ := Prod.mk.inj (Option.some.inj hsame)
      exact .inl (congrArg analyzer (AnalyzerCommand.arguments_inj harguments))
    case admin.admin a a' =>
      obtain ⟨hfamily, harguments⟩ := Prod.mk.inj (Option.some.inj hsame)
      rcases AdminCommand.form_inj hfamily harguments with rfl | hshared
      · exact .inl rfl
      · exact .inr ⟨a, a', rfl, rfl, hshared⟩
    all_goals
      have hfile := FileCommand.family_eq
      have hadmin := AdminCommand.family_eq
      grind [form?]
  · rintro (rfl | ⟨a, a', rfl, rfl, hshared⟩)
    · exact h
    · obtain ⟨hfamily, harguments⟩ := AdminCommand.form_eq_of_sharesMapping hshared
      rw [← h, form?, form?, hfamily, harguments]

/-- The name of a mapping does not hold what stands between it and the path. -/
def NameStandsApart (c : Command) : Prop :=
  ∀ name path, c = .admin (.setMapping name path) →
    ¬ AdminCommand.mappingSeparator.toList <:+: name.toList

theorem nameStandsApart_setMapping {name path : String}
    (h : ¬ AdminCommand.mappingSeparator.toList <:+: name.toList) :
    NameStandsApart (.admin (.setMapping name path)) := by
  rintro name' path' ⟨⟩
  exact h

theorem eq_of_sharesMapping {c c' : Command} (h : c.SharesMapping c') (hc : c.NameStandsApart)
    (hc' : c'.NameStandsApart) : c = c' := by
  obtain ⟨a, a', rfl, rfl, name, path, name', path', rfl, rfl, hjoined⟩ := h
  have hname := hc name path rfl
  have hname' := hc' name' path' rfl
  have hseparator : AdminCommand.mappingSeparator.toList = ';' :: "path:".toList := rfl
  have hcharacters := congrArg String.toList hjoined
  simp only [String.toList_append, List.append_assoc, hseparator] at hcharacters hname hname'
  obtain ⟨hnames, hpaths⟩ := append_separator_inj (by decide) hname hname' hcharacters
  rw [String.toList_inj.1 hnames, String.toList_inj.1 hpaths]

end Command

end RemoteDev
