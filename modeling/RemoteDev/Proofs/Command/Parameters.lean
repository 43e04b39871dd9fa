import RemoteDev.Command.Basic
import RemoteDev.Proofs.Outcome

/-! Which parameters make a request. A command has one exactly if none of the texts is empty that
it cannot do without and, where it replaces the watched variables, if these are neither none nor
more than an array holds. -/
namespace RemoteDev

@[simp] theorem isOk_required (name value : String) :
    (required name value).isOk = (value != "") := by
  unfold required
  split <;> simp_all

theorem isOk_required_bind (name value : String) {α : Type} (next : String → Except Failure α) :
    (required name value >>= next).isOk = (value != "" && (next value).isOk) := by
  unfold required
  split
  case isTrue h => simp [h, bind, Except.bind]
  case isFalse h => simp [h, bind, Except.bind]

def FileCommand.requiredTexts : FileCommand → List String
  | browse _ => []
  | read path => [path]
  | write path _ => [path]
  | rename current new => [new, current]
  | removeFile path => [path]
  | removeDirectory path => [path]
  | probe path => [path]
  | createDirectory path => [path]
  | root => []

theorem FileCommand.isOk_request (c : FileCommand) :
    c.request.isOk = c.requiredTexts.all (· != "") := by
  cases c <;> simp [request, onPath, requiredTexts, isOk_required_bind]

def DataSourceCommand.requiredTexts : DataSourceCommand → List String
  | names => []
  | tables source => [source]
  | columns source table => [source, table]
  | primaryKeys source table => [source, table]
  | foreignKeys source table => [source, table]
  | importedKeys source table => [source, table]
  | exportedKeys source table => [source, table]
  | statement source sql => [source, sql]
  | metadata source sql => [source, sql]
  | supportedCommands => []
  | description source => [source]

theorem DataSourceCommand.isOk_request (c : DataSourceCommand) :
    c.request.isOk = c.requiredTexts.all (· != "") := by
  cases c <;> simp [request, onSource, withParameter, requiredTexts, isOk_required_bind]

def AnalyzerCommand.requiredTexts : AnalyzerCommand → List String
  | scan paths _ _ => [paths]
  | cancel _ => []
  | progress _ => []
  | findings _ => []
  | discard _ => []

theorem AnalyzerCommand.isOk_request (c : AnalyzerCommand) :
    c.request.isOk = c.requiredTexts.all (· != "") := by
  cases c <;> simp [request, requiredTexts]

def AdminCommand.requiredTexts : AdminCommand → List String
  | handshake _ => []
  | logProperty property => [property]
  | tagPaths => []
  | setMapping name path => [name, path]
  | deleteMapping name => [name]
  | mappings => []

theorem AdminCommand.isOk_request (c : AdminCommand) :
    c.request.isOk = c.requiredTexts.all (· != "") := by
  cases c <;> simp [request, requiredTexts, isOk_required_bind]

namespace DebuggerCommand

def requiredTexts : DebuggerCommand → List String
  | start => []
  | stop session => [session]
  | serverInfo session => [session]
  | breakOnException session _ => [session]
  | setBreakpoint session path _ => [path, session]
  | clearBreakpoint session path _ => [path, session]
  | clearBreakpoints session => [session]
  | event session => [session]
  | eventWith session _ => [session]
  | move _ session thread => [thread, session]
  | watchExpression session thread name => [thread, name, session]
  | setVariable session thread name _ => [thread, name, session]
  | watchVariables session _ => [session]
  | output session thread => [thread, session]
  | scopeFilter session _ => [session]

/-- Names that make a list of watched variables once the empty ones are left out. -/
def watchable (names : List String) : Bool :=
  let watched := names.filter (· ≠ "")
  !watched.isEmpty && watched.length ≤ Value.maxLength

def listsFit : DebuggerCommand → Bool
  | watchVariables _ names => watchable names
  | _ => true

theorem listsFit_eq_false_iff (c : DebuggerCommand) :
    c.listsFit = false ↔ ∃ session names, c = .watchVariables session names ∧
      (names.filter (· ≠ "") = [] ∨ Value.maxLength < (names.filter (· ≠ "")).length) := by
  cases c with
  | watchVariables session names =>
    simp only [listsFit, watchable, Bool.and_eq_false_iff, Bool.not_eq_false', List.isEmpty_iff,
      decide_eq_false_iff_not, Nat.not_le, watchVariables.injEq]
    exact ⟨fun h => ⟨_, _, ⟨rfl, rfl⟩, h⟩, fun ⟨_, _, ⟨_, hnames⟩, h⟩ => hnames ▸ h⟩
  | _ => simp [listsFit]

theorem isOk_documentOf (entries : List (String × Value)) :
    (documentOf entries).isOk = (packetOf entries).isOk := by
  rw [documentOf, isOk_mapError, isOk_map]

theorem isOk_ofEntries {entries : List (String × Value)} (h : (packetOf entries).isOk = true)
    (session : String) : (ofEntries session entries).isOk = (session != "") := by
  simp [ofEntries, isOk_required_bind, isOk_documentOf, h]

theorem isOk_ofSession (operation session : String) (rest : List String) :
    (ofSession operation session rest).isOk = (session != "") := by
  simp [ofSession]

theorem isOk_breakpoint (command session path : String) (line : Nat) :
    (breakpoint command session path line).isOk = (path != "" && session != "") := by
  have hpacket : (packetOf [("0,Y", .ofInt line), ("0,COMMAND", .text command),
      ("0,FILE", .text path), ("0,SEQ", .ofInt 1)]).isOk = true := rfl
  rw [breakpoint, isOk_required_bind, isOk_ofEntries hpacket]

theorem isOk_watchList (names : List String) :
    (watchList names).isOk = decide (names.length ≤ Value.maxLength) := by
  unfold watchList
  split
  case isTrue h => simp [Nat.not_le.2 h]
  case isFalse h => simp [Nat.not_lt.1 h]

theorem isOk_request_watchVariables (session : String) (names : List String) :
    (watchVariables session names).request.isOk = (session != "" && watchable names) := by
  have hpacket (list : Value) : (packetOf [("0,COMMAND", .text "SET_WATCH_VARIABLES"),
      ("0,WATCH", list)]).isOk = true := rfl
  rw [request, watchable]
  generalize names.filter (· ≠ "") = watched
  cases watched with
  | nil => simp [throw, throwThe, MonadExceptOf.throw, bind, Except.bind]
  | cons name watched =>
    have hentries (list : Value) := isOk_ofEntries (hpacket list) session
    simp only [List.isEmpty_cons, Bool.not_false, Bool.true_and]
    rw [if_neg (by decide)]
    refine (isOk_required_bind _ _ _).trans ?_
    rw [isOk_bind_of_forall (session != "") hentries, isOk_watchList]
    cases session != "" <;> simp

theorem isOk_request (c : DebuggerCommand) :
    c.request.isOk = (c.requiredTexts.all (· != "") && c.listsFit) := by
  cases c with
  | start => rfl
  | stop | serverInfo | event => simp [request, requiredTexts, listsFit, isOk_ofSession]
  | breakOnException | clearBreakpoints | scopeFilter =>
    rw [request, isOk_ofEntries]
    · simp [requiredTexts, listsFit]
    · rfl
  | setBreakpoint | clearBreakpoint => simp [request, requiredTexts, listsFit, isOk_breakpoint]
  | eventWith session parts =>
    have hparts : (packetOf [("THREADS", .bool parts.threads), ("WATCH", .bool parts.watch),
        ("SCOPES", .bool parts.scopes), ("CF_TRACE", .bool parts.pageTrace),
        ("JAVA_TRACE", .bool parts.javaTrace)]).isOk = true := rfl
    rw [request, isOk_required_bind, isOk_bind_of_forall _ fun _ => isOk_ofSession _ _ _,
      isOk_documentOf, hparts]
    simp [requiredTexts, listsFit]
  | move | output =>
    rw [request, isOk_required_bind, isOk_ofEntries]
    · simp [requiredTexts, listsFit]
    · rfl
  | watchExpression | setVariable =>
    rw [request, isOk_required_bind, isOk_required_bind, isOk_ofEntries]
    · simp [requiredTexts, listsFit]
    · rfl
  | watchVariables session names => simp [isOk_request_watchVariables, requiredTexts, listsFit]

end DebuggerCommand

namespace Command

def requiredTexts : Command → List String
  | file c => c.requiredTexts
  | dataSource c => c.requiredTexts
  | debugger c => c.requiredTexts
  | analyzer c => c.requiredTexts
  | admin c => c.requiredTexts

/-- A command that cannot be sent: a text is empty that it cannot do without, or it watches no
variables or more than an array holds. -/
def LacksParameter (c : Command) : Prop :=
  "" ∈ c.requiredTexts ∨
    ∃ session names, c = .debugger (.watchVariables session names) ∧
      (names.filter (· ≠ "") = [] ∨ Value.maxLength < (names.filter (· ≠ "")).length)

theorem request_eq_error_iff (c : Command) :
    (∃ failure, c.request = .error failure) ↔ c.LacksParameter := by
  rw [← isOk_eq_false_iff, LacksParameter]
  cases c with
  | file c => simp [request, requiredTexts, FileCommand.isOk_request]
  | dataSource c => simp [request, requiredTexts, DataSourceCommand.isOk_request]
  | analyzer c => simp [request, requiredTexts, AnalyzerCommand.isOk_request]
  | admin c => simp [request, requiredTexts, AdminCommand.isOk_request]
  | debugger c =>
    simp only [request, requiredTexts, DebuggerCommand.isOk_request, Bool.and_eq_false_iff,
      DebuggerCommand.listsFit_eq_false_iff, debugger.injEq]
    simp

end Command
end RemoteDev
