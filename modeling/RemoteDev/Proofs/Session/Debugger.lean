import RemoteDev.Proofs.Packet.FirstSlot
import RemoteDev.Proofs.Session.Message

/-! The parameters of commands to the debugger. They are put into the struct at the first slot of a
packet, and whoever reads the document that a command sends finds each of them there, exactly as it
was given, and no other field beside them. -/
namespace RemoteDev

inductive Parameter where
  | text (shown : String)
  | number (n : Nat)
  | flag (b : Bool)

namespace Parameter

def value : Parameter → Value
  | text shown => .text shown
  | number n => .ofInt n
  | flag b => .bool b

/-- Texts of characters that documents carry, and numbers of 32 bits. -/
def isCarried : Parameter → Bool
  | text shown => shown.toList.all isCarriedChar
  | number n => n < 2 ^ 32
  | flag _ => true

def FoundAt (p : Packet) (path : String) : Parameter → Prop
  | text shown => p.text? path = some shown
  | number n => ∃ x, p.number? path = some x ∧ x.IsNatural n
  | flag b => p.bool? path = some b

theorem carried_value {a : Parameter} (h : a.isCarried = true) :
    a.value.portable = true ∧ a.value.gapless = true := by
  cases a with
  | text shown => exact ⟨by rw [value, Value.portable]; exact h, by rw [value, Value.gapless]⟩
  | number n =>
    have hsmall : n < 2 ^ 32 := of_decide_eq_true h
    have hexact : (Binary64.ofInt n).IsNatural n := Binary64.isNatural_ofInt (by omega)
    refine ⟨?_, by rw [value, Value.ofInt, Value.gapless]⟩
    rw [value, Value.ofInt, Value.portable, hexact.whole, hexact.part, Bool.true_and,
      decide_eq_true_eq]
    omega
  | flag b => exact ⟨by rw [value, Value.portable], by rw [value, Value.gapless]⟩

theorem foundAt_of_get? {p : Packet} {path : String} {a : Parameter} (hcarried : a.isCarried = true)
    (h : p.get? path = some a.value) : a.FoundAt p path := by
  cases a with
  | text shown =>
    rw [FoundAt, Packet.text?, h]
    rfl
  | number n =>
    have hsmall : n < 2 ^ 32 := of_decide_eq_true hcarried
    refine ⟨Binary64.ofInt n, ?_, Binary64.isNatural_ofInt (by omega)⟩
    rw [Packet.number?, h]
    rfl
  | flag b =>
    rw [FoundAt, Packet.bool?, h]
    rfl

end Parameter

namespace DebuggerCommand

/-- The session of a command and the parameters that it puts into the struct at the first slot. The
other commands send no packet, one without such a struct, or a list of variables in it. -/
def parameters? : DebuggerCommand → Option (String × List (String × Parameter))
  | breakOnException session enable =>
    some (session, [("BREAK_ON_EXCEPTION", .flag enable),
      ("COMMAND", .text "SESSION_BREAK_ON_EXCEPTION")])
  | setBreakpoint session path line =>
    some (session, [("Y", .number line), ("COMMAND", .text "SET_BREAKPOINT"), ("FILE", .text path),
      ("SEQ", .number 1)])
  | clearBreakpoint session path line =>
    some (session, [("Y", .number line), ("COMMAND", .text "UNSET_BREAKPOINT"),
      ("FILE", .text path), ("SEQ", .number 1)])
  | clearBreakpoints session => some (session, [("COMMAND", .text "UNSET_ALL_BREAKPOINTS")])
  | move how session thread =>
    some (session, [("COMMAND", .text how.name), ("THREAD", .text thread)])
  | watchExpression session thread name =>
    some (session, [("VARIABLE_NAME", .text name), ("COMMAND", .text "GET_SINGLE_CF_VARIABLE"),
      ("THREAD", .text thread)])
  | setVariable session thread name value =>
    some (session, [("VARIABLE_VALUE", .text value), ("VARIABLE_NAME", .text name),
      ("COMMAND", .text "SET_VARIABLE_VALUE"), ("THREAD", .text thread)])
  | output session thread => some (session, [("BODY_ONLY", .flag true), ("THREAD", .text thread)])
  | scopeFilter session filter =>
    some (session, [("FILTER", .text filter), ("COMMAND", .text "SET_SCOPE_FILTER")])
  | _ => none

variable {c : DebuggerCommand} {session : String} {parameters : List (String × Parameter)}

def fieldsOf (parameters : List (String × Parameter)) : List (String × Value) :=
  parameters.map fun a => (a.1, a.2.value)

theorem request_of_parameters (h : c.parameters? = some (session, parameters))
    (hvalid : "" ∉ c.requiredTexts) :
    c.request = ofEntries session ((fieldsOf parameters).map fun f => ("0," ++ f.1, f.2)) := by
  cases c <;> cases h <;>
    simp_all [requiredTexts, request, breakpoint, required_eq_ok, ok_bind, fieldsOf,
      Parameter.value]

theorem session_ne_empty (h : c.parameters? = some (session, parameters))
    (hvalid : "" ∉ c.requiredTexts) : session ≠ "" := by
  cases c <;> cases h <;> simp_all [requiredTexts]

def parameterNames : List String :=
  ["BODY_ONLY", "BREAK_ON_EXCEPTION", "COMMAND", "FILE", "FILTER", "SEQ", "THREAD",
    "VARIABLE_NAME", "VARIABLE_VALUE", "Y"]

theorem isPathName_of_mem : ∀ name ∈ parameterNames, isPathName name = true := by decide

theorem names_of_parameters (h : c.parameters? = some (session, parameters)) :
    parameters ≠ [] ∧ (∀ a ∈ parameters, a.1 ∈ parameterNames) ∧
      (parameters.map Prod.fst).Nodup := by
  cases c <;> cases h <;> simp [parameterNames]

theorem packetOf_first {fields : List (String × Value)} (hne : fields ≠ [])
    (hnames : ∀ f ∈ fields, isPathName f.1 = true) (hdistinct : (fields.map Prod.fst).Nodup) :
    packetOf (fields.map fun f => ("0," ++ f.1, f.2)) = .ok (Packet.ofFields fields) := by
  obtain ⟨first, r, rfl⟩ := List.exists_cons_of_ne_nil hne
  have hfirst := Packet.put_empty_first (hnames first List.mem_cons_self) first.2
  rw [packetOf, List.map_cons, List.foldlM_cons]
  simp only [hfirst, ok_bind]
  exact Packet.foldlM_put_first (fun f hf => hnames f (List.mem_cons_of_mem first hf)) hdistinct

theorem ofEntries_of_packetOf {entries : List (String × Value)} {p : Packet}
    (hsession : session ≠ "") (h : packetOf entries = .ok p) :
    ofEntries session entries = .ok
      (.ofFamily .debugger
        [encodeText "DBG_REQUEST", encodeText session, encodeText p.toMarkup]) := by
  rw [ofEntries, required_eq_ok hsession, documentOf, h]
  rfl

end DebuggerCommand

namespace Session

open DebuggerCommand

/-- A command that lacks no parameter, and whose texts have no character that documents lose, sends
its session and a document. The document is read back as a packet in which every parameter stands
where it was put, and whose struct at the first slot has no other field. -/
theorem sends_parameters (e : Endpoint) {c : DebuggerCommand} {session : String}
    {parameters : List (String × Parameter)} (h : c.parameters? = some (session, parameters))
    (hvalid : "" ∉ c.requiredTexts) (hcarried : ∀ a ∈ parameters, a.2.isCarried = true) :
    ∃ document p,
      Sends e (.debugger c) .debugger
        [encodeText "DBG_REQUEST", encodeText session, encodeText document] ∧
      Packet.ofMarkup document = .ok p ∧
      (∀ a ∈ parameters, a.2.FoundAt p ("0," ++ a.1)) ∧
      ∃ fields, p.get? "0" = some (.struct fields) ∧
        fields.map Prod.fst = parameters.map Prod.fst := by
  obtain ⟨hne, hknown, hdistinct⟩ := names_of_parameters h
  have hnamed : (fieldsOf parameters).map Prod.fst = parameters.map Prod.fst := by
    rw [fieldsOf, List.map_map]
    rfl
  have hnames : ∀ f ∈ fieldsOf parameters, isPathName f.1 = true :=
    List.forall_mem_map.2 fun a ha => isPathName_of_mem _ (hknown a ha)
  have hvalues : ∀ f ∈ fieldsOf parameters, f.2.portable = true ∧ f.2.gapless = true :=
    List.forall_mem_map.2 fun a ha => Parameter.carried_value (hcarried a ha)
  rw [← hnamed] at hdistinct
  have hpacket := packetOf_first (by simpa [fieldsOf] using hne) hnames hdistinct
  have hrequest := ofEntries_of_packetOf (session_ne_empty h hvalid) hpacket
  rw [← request_of_parameters h hvalid] at hrequest
  refine ⟨_, _, sends_of_request e hrequest, Packet.ofMarkup_ofFields hnames hdistinct hvalues,
    fun a ha => ?_, _, Packet.get?_ofFields_first _, ?_⟩
  · have hmem : (a.1, a.2.value) ∈ fieldsOf parameters := List.mem_map_of_mem ha
    exact Parameter.foundAt_of_get? (hcarried a ha)
      (Packet.get?_ofFields (hnames _ hmem) hdistinct hmem)
  · rw [Packet.names_presentFields, hnamed]

/-- A value of markup characters and control characters, for a session that is not of letters. -/
theorem sends_parameters_of_markup :
    let e : Endpoint := ⟨"cf.local", 8500, "admin", "", by decide, by decide⟩
    let value := "<a b='&#13;'>]]>\x01\n\t:,é"
    let c : DebuggerCommand := .setVariable "é:STR:1:<" "t&1" "x,y" value
    let parameters := [("VARIABLE_VALUE", Parameter.text value),
      ("VARIABLE_NAME", Parameter.text "x,y"), ("COMMAND", Parameter.text "SET_VARIABLE_VALUE"),
      ("THREAD", Parameter.text "t&1")]
    c.parameters? = some ("é:STR:1:<", parameters) ∧ "" ∉ c.requiredTexts ∧
      (∀ a ∈ parameters, a.2.isCarried = true) ∧
      ∃ document p,
        Sends e (.debugger c) .debugger
          [encodeText "DBG_REQUEST", encodeText "é:STR:1:<", encodeText document] ∧
        Packet.ofMarkup document = .ok p ∧
        (∀ a ∈ parameters, a.2.FoundAt p ("0," ++ a.1)) ∧
        ∃ fields, p.get? "0" = some (.struct fields) ∧
          fields.map Prod.fst = ["VARIABLE_VALUE", "VARIABLE_NAME", "COMMAND", "THREAD"] := by
  intro e value c parameters
  have hparameters : c.parameters? = some ("é:STR:1:<", parameters) := rfl
  have hvalid : "" ∉ c.requiredTexts := by decide
  have hcarried : ∀ a ∈ parameters, a.2.isCarried = true := by decide
  exact ⟨hparameters, hvalid, hcarried, sends_parameters e hparameters hvalid hcarried⟩

end Session
end RemoteDev
