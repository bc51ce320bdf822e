import Lexeme.Log.EventText
import Lexeme.Proofs.JsonForms

/-!
# Log lines in JSON

The JSON line of an event holds no control, so that it stays one line, and what is read back from it
tells the event (`Log.Event.ToldBy`): its level, code and message, its context entry by entry, its
place if it has one, and what is registered about its code (`Log.CodeInfo.Describes`). Lines are
alike only for events that agree in all of this (`Log.Event.jsonLine_lossless`).
-/

set_option autoImplicit false
set_option relaxedAutoImplicit false

namespace Lexeme

open Json (Value)
open Text (Dictionary)

namespace Json.Value

theorem member?_cons_of_ne {name other : String} (hother : other ≠ name) (value : Value)
    (members : List (String × Value)) :
    member? ((other, value) :: members) name = member? members name := by
  rw [member?, member?, List.filter_cons_of_neg (by simpa using hother)]

/-- The members written from ordered entries are the values under their keys. -/
theorem member?_map {α : Type} (toJson : α → Value) {entries : List (String × α)}
    (hsorted : entries.Pairwise (fun a b ↦ a.1 < b.1)) (key : String) :
    member? (entries.map fun (key, value) ↦ (key, toJson value)) key =
      some ((entries.lookup key).map toJson) := by
  induction entries with
  | nil => rfl
  | cons entry entries ih =>
    obtain ⟨k, v⟩ := entry
    obtain ⟨hfirst, hrest⟩ := List.pairwise_cons.1 hsorted
    rw [List.map_cons, Dictionary.lookup_cons]
    by_cases hkey : key = k
    · have hfresh : (entries.map fun (key, value) ↦ (key, toJson value)).filter (·.1 == k) = [] :=
        List.filter_eq_nil_iff.2 fun member hmem hsame ↦ by
          obtain ⟨entry, hentry, rfl⟩ := List.mem_map.1 hmem
          have hless : k < entry.1 := hfirst entry hentry
          rw [← eq_of_beq hsame] at hless
          exact String.lt_irrefl _ hless
      simp [member?, hkey, hfresh]
    · rw [member?_cons_of_ne (Ne.symm hkey), ih hrest, if_neg hkey]

theorem ofNat_injective {n m : Nat} (hvalue : ofNat n = ofNat m) : n = m := by
  simp only [ofNat, number.injEq, Numeral.ofNat, Numeral.mk.injEq] at hvalue
  rw [← Decimal.ofDigitChars_digits n, ← Decimal.ofDigitChars_digits m, hvalue.2.1]

end Json.Value

namespace Log

/-! ### Codes -/

/-- What counts about a code that is not registered. -/
def Code.unregistered (code : Code) : CodeInfo where
  code := code
  category := "Unknown"
  severity := .medium
  recoverable := true
  requiresHalt := false
  description := Code.unknownDescription
  action := Code.unknownAction

/-- What is registered about a code, or what counts about one that is not registered. -/
def CodeInfo.Describes (info : CodeInfo) (code : Code) : Prop :=
  (info ∈ Code.registry ∧ info.code = code) ∨
    (∀ other ∈ Code.registry, other.code ≠ code) ∧ info = code.unregistered

/-- All that is asked about a code. -/
def Code.described (code : Code) : CodeInfo where
  code := code
  category := code.category
  severity := code.severity
  recoverable := code.isRecoverable
  requiresHalt := code.requiresHalt
  description := code.description
  action := code.action

/-- Each code is registered once. -/
theorem Code.nodup_registry : (Code.registry.map (·.code)).Nodup := by
  decide

/-- What is asked about a code is what describes it, and nothing else describes it. -/
theorem CodeInfo.describes_iff {info : CodeInfo} {code : Code} :
    info.Describes code ↔ info = code.described := by
  cases hinfo : code.info? with
  | some found =>
    have hmem : found ∈ Code.registry := List.mem_of_find?_eq_some hinfo
    have hfound := List.find?_some hinfo
    have hcode : found.code = code := beq_iff_eq.1 hfound
    have hdescribed : code.described = found := by
      simp only [Code.described, Code.category, Code.severity, Code.isRecoverable,
        Code.requiresHalt, Code.description, Code.action, hinfo, Option.map_some, Option.getD_some]
      rw [← hcode]
    rw [hdescribed]
    constructor
    · rintro (⟨hregistered, hsame⟩ | ⟨hfree, -⟩)
      · exact List.inj_on_of_nodup_map Code.nodup_registry hregistered hmem (hsame.trans hcode.symm)
      · exact absurd hcode (hfree found hmem)
    · rintro rfl
      exact .inl ⟨hmem, hcode⟩
  | none =>
    have hfree : ∀ other ∈ Code.registry, other.code ≠ code := fun other hmem hsame ↦
      List.find?_eq_none.1 hinfo other hmem (beq_iff_eq.2 hsame)
    have hdescribed : code.described = code.unregistered := by
      simp only [Code.described, Code.category, Code.severity, Code.isRecoverable,
        Code.requiresHalt, Code.description, Code.action, hinfo, Option.map_none, Option.getD_none]
      rfl
    rw [hdescribed]
    constructor
    · rintro (⟨hregistered, hsame⟩ | ⟨-, hsame⟩)
      · exact absurd hsame (hfree info hregistered)
      · exact hsame
    · exact fun hsame ↦ .inr ⟨hfree, hsame⟩

/-! ### What a line tells -/

theorem Level.label_injective {level other : Level} (hlabel : level.label = other.label) :
    level = other := by
  cases level <;> cases other <;> simp_all [label]

namespace Event

open Json.Value (member?)

/-- The members of an object tell an event with a code that is described in this way. -/
structure ToldBy (event : Event) (info : CodeInfo) (members : List (String × Value)) : Prop where
  level : member? members "level" = some (some (.string event.level.label))
  code : member? members "code" = some (some (.string event.code.text))
  message : member? members "message" = some (some (.string event.message))
  /-- There is no context without entries. -/
  no_context : event.context.isEmpty → member? members "context" = some none
  context : event.context.isEmpty = false →
    ∃ entries, member? members "context" = some (some (.object entries)) ∧
      ∀ key, member? entries key = some ((event.context.get? key).map .string)
  no_span : event.span = none → member? members "span" = some none
  span : ∀ span, event.span = some span →
    ∃ offsets, member? members "span" = some (some (.object offsets)) ∧
      member? offsets "start" = some (some (.ofNat span.start)) ∧
      member? offsets "end" = some (some (.ofNat span.stop)) ∧
      (span.Fits → Span.ofJson? (.object offsets) = some span)
  category : member? members "category" = some (some (.string info.category))
  severity : member? members "severity" = some (some (.string info.severity.name))
  /-- What is known about the code is told of errors only. -/
  no_errorInfo : event.level ≠ .error → member? members "error_metadata" = some none
  errorInfo : event.level = .error →
    ∃ facts, member? members "error_metadata" = some (some (.object facts)) ∧
      member? facts "description" = some (some (.string info.description)) ∧
      member? facts "recommended_action" = some (some (.string info.action)) ∧
      member? facts "recoverable" = some (some (.boolean info.recoverable)) ∧
      member? facts "requires_halt" = some (some (.boolean info.requiresHalt))
  timestamp : member? members "timestamp" = some (some (.string event.time.timestamp))

theorem fields?_toJson (event : Event) : event.toJson.fields?
    ["category", "code", "context", "error_metadata", "level", "message", "severity", "span",
      "timestamp"] = some [
    some (.string event.code.category), some (.string event.code.text),
    if event.context.isEmpty then none
    else some (.object (event.context.entries.map fun (key, value) ↦ (key, .string value))),
    if event.level = .error then some (errorInfo event.code) else none,
    some (.string event.level.label), some (.string event.message),
    some (.string event.code.severity.name),
    event.span.map fun span ↦ .object [("end", .ofNat span.stop), ("start", .ofNat span.start)],
    some (.string event.time.timestamp)] := by
  obtain ⟨time, level, code, message, span, context⟩ := event
  rw [toJson]
  cases hcontext : context.isEmpty <;> cases level <;> cases span <;> rfl

/-- The offsets of a place are read in either order. -/
theorem ofJson?_offsets {span : Span} (hfits : span.Fits) :
    Span.ofJson? (.object [("end", .ofNat span.stop), ("start", .ofNat span.start)]) =
      some span := by
  have hfields : (Value.object [("end", .ofNat span.stop), ("start", .ofNat span.start)]).fields?
    ["start", "end"] = some [some (.ofNat span.start), some (.ofNat span.stop)] := rfl
  rw [Span.ofJson?, hfields]
  simp [Value.counter?_ofNat hfits.start, Value.counter?_ofNat hfits.stop]

/-- An event is written as an object that tells it. -/
theorem toldBy_toJson (event : Event) :
    ∃ members, event.toJson = .object members ∧ event.ToldBy event.code.described members := by
  obtain ⟨members, hmembers⟩ : ∃ members, event.toJson = .object members := ⟨_, rfl⟩
  have hfields := event.fields?_toJson
  rw [hmembers] at hfields
  simp only [Value.fields?, List.mapM_cons, List.mapM_nil, Option.pure_def, Option.bind_eq_bind,
    Option.bind_eq_some_iff, Option.some.injEq, List.cons.injEq, exists_eq_right_right] at hfields
  obtain ⟨hcategory, hcode, hcontext, herrorInfo, hlevel, hmessage, hseverity, hspan, htimestamp,
    -⟩ := hfields
  exact ⟨members, hmembers, {
    level := hlevel
    code := hcode
    message := hmessage
    no_context := fun hempty ↦ by rw [hcontext, if_pos hempty]
    context := fun hentries ↦
      ⟨_, by rw [hcontext, hentries]; rfl, Value.member?_map Value.string event.context.sorted⟩
    no_span := fun hnone ↦ by rw [hspan, hnone]; rfl
    span := fun span hsome ↦
      ⟨_, by rw [hspan, hsome]; rfl, rfl, rfl, ofJson?_offsets⟩
    category := hcategory
    severity := hseverity
    no_errorInfo := fun hlevel ↦ by rw [herrorInfo, if_neg hlevel]
    errorInfo := fun hlevel ↦ ⟨_, by rw [herrorInfo, if_pos hlevel]; rfl, rfl, rfl, rfl, rfl⟩
    timestamp := htimestamp }⟩

theorem readable_toJson (event : Event) : event.toJson.Readable := by
  have hcontext : (Value.object
      (event.context.entries.map fun (key, value) ↦ (key, .string value))).Readable :=
    .object _ fun member hmember ↦ by
      obtain ⟨entry, -, rfl⟩ := List.mem_map.1 hmember
      exact .string entry.2
  have herrorInfo : (errorInfo event.code).Readable :=
    .object _ (by simp [Value.Readable.string, Value.Readable.boolean])
  have hspan (span : Span) :
      (Value.object [("end", .ofNat span.stop), ("start", .ofNat span.start)]).Readable :=
    .object _ (by simp [Value.readable_ofNat])
  rw [toJson]
  refine .object _ ?_
  cases event.span <;>
    simp [or_imp, forall_and, hcontext, herrorInfo, hspan, Value.Readable.string]

section Agreement

variable {event other : Event} {info otherInfo : CodeInfo} {members : List (String × Value)}

/-- Events that are told by one object have one place or none. -/
theorem ToldBy.span_eq (htold : event.ToldBy info members)
    (hother : other.ToldBy otherInfo members) : event.span = other.span := by
  cases hevent : event.span with
  | none =>
    cases hsame : other.span with
    | none => rfl
    | some span =>
      obtain ⟨offsets, hmember, -⟩ := hother.span span hsame
      exact absurd ((htold.no_span hevent).symm.trans hmember) nofun
  | some span =>
    obtain ⟨offsets, hmember, hstart, hstop, -⟩ := htold.span span hevent
    cases hsame : other.span with
    | none => exact absurd ((hother.no_span hsame).symm.trans hmember) nofun
    | some otherSpan =>
      obtain ⟨otherOffsets, hotherMember, hotherStart, hotherStop, -⟩ :=
        hother.span otherSpan hsame
      cases hmember.symm.trans hotherMember
      have hstarts : span.start = otherSpan.start :=
        Value.ofNat_injective (by simpa using hstart.symm.trans hotherStart)
      have hstops : span.stop = otherSpan.stop :=
        Value.ofNat_injective (by simpa using hstop.symm.trans hotherStop)
      cases span
      cases otherSpan
      cases hstarts
      cases hstops
      rfl

/-- Events that are told by one object have one context. -/
theorem ToldBy.context_eq (htold : event.ToldBy info members)
    (hother : other.ToldBy otherInfo members) : event.context = other.context := by
  cases hevent : event.context.isEmpty with
  | true =>
    cases hsame : other.context.isEmpty with
    | true => rw [Dictionary.eq_empty_of_isEmpty hevent, Dictionary.eq_empty_of_isEmpty hsame]
    | false =>
      obtain ⟨entries, hmember, -⟩ := hother.context hsame
      exact absurd ((htold.no_context hevent).symm.trans hmember) nofun
  | false =>
    obtain ⟨entries, hmember, hentries⟩ := htold.context hevent
    cases hsame : other.context.isEmpty with
    | true => exact absurd ((hother.no_context hsame).symm.trans hmember) nofun
    | false =>
      obtain ⟨otherEntries, hotherMember, hotherEntries⟩ := hother.context hsame
      cases hmember.symm.trans hotherMember
      refine Dictionary.eq_of_get?_eq fun key ↦ ?_
      have hvalues := Option.some.inj ((hentries key).symm.trans (hotherEntries key))
      exact Option.map_injective (fun _ _ ↦ Value.string.inj) hvalues

/-- Events that are told by one object agree in all that is told. -/
theorem ToldBy.agree (htold : event.ToldBy info members) (hother : other.ToldBy otherInfo members) :
    event.level = other.level ∧ event.code = other.code ∧ event.message = other.message ∧
      event.span = other.span ∧ event.context = other.context ∧
      event.time.timestamp = other.time.timestamp := by
  have hlevel : event.level = other.level :=
    Level.label_injective (by simpa using htold.level.symm.trans hother.level)
  have hcode : event.code = other.code :=
    congrArg Code.mk (by simpa using htold.code.symm.trans hother.code)
  have hmessage : event.message = other.message := by
    simpa using htold.message.symm.trans hother.message
  have htimestamp : event.time.timestamp = other.time.timestamp := by
    simpa using htold.timestamp.symm.trans hother.timestamp
  exact ⟨hlevel, hcode, hmessage, htold.span_eq hother, htold.context_eq hother, htimestamp⟩

end Agreement

/-- The line of an event is one line, it tells the event and what is known about its code, and the
lines of two events are alike only if the events agree in all that a line tells. -/
theorem jsonLine_lossless (event : Event) :
    (∀ c ∈ event.jsonLine.toList, 0x20 ≤ c.toNat) ∧
    (∃ members info, Value.ofText? event.jsonLine = some (.object members) ∧
      (∀ other : CodeInfo, other.Describes event.code ↔ other = info) ∧
      event.ToldBy info members) ∧
    ∀ other : Event, event.jsonLine = other.jsonLine ↔
      event.level = other.level ∧ event.code = other.code ∧ event.message = other.message ∧
        event.span = other.span ∧ event.context = other.context ∧
        event.time.timestamp = other.time.timestamp := by
  have hread (event : Event) : Value.ofText? event.jsonLine = some event.toJson :=
    event.readable_toJson.ofText?_toLine
  refine ⟨?_, ?_, fun other ↦ ⟨fun hline ↦ ?_, ?_⟩⟩
  · rw [jsonLine, Value.toLine, String.toList_ofList]
    exact event.readable_toJson.freeOfControls 0
  · obtain ⟨members, hmembers, htold⟩ := event.toldBy_toJson
    exact ⟨members, event.code.described, hmembers ▸ hread event,
      fun _ ↦ CodeInfo.describes_iff, htold⟩
  · obtain ⟨members, hmembers, htold⟩ := event.toldBy_toJson
    obtain ⟨otherMembers, hotherMembers, hother⟩ := other.toldBy_toJson
    have hsame : event.toJson = other.toJson :=
      Option.some.inj ((hread event).symm.trans (hline ▸ hread other))
    cases hmembers.symm.trans (hsame.trans hotherMembers)
    exact htold.agree hother
  · rintro ⟨hlevel, hcode, hmessage, hspan, hcontext, htimestamp⟩
    simp only [jsonLine, toJson, hlevel, hcode, hmessage, hspan, hcontext, htimestamp]

end Event

end Log

end Lexeme
