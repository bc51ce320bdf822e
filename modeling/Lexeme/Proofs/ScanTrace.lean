import Lexeme.Proofs.BuildLimits
import Lexeme.Proofs.CursorSteps
import Lexeme.Proofs.LoggedEvents
import Lexeme.Proofs.Processing
import Lexeme.Proofs.StrictScan
import Lexeme.Scan.LoggedCursor

/-!
# What is logged about a scan

A trouble is logged by the step that meets it, before it is taken in. One step logs what there is to
log about the piece that it passes (`Cursor.stepTraced_eq`), so the steps up to the end of a source
log what there is to log about all of its pieces (`Cursor.runTraced_eq`), and a scan that logs step
by step has the trace of the scan that goes through its pieces (`scanStepwise_eq`).

What is logged becomes events, and an event tells its level, its code, its place and the context
that there is room for (`Log.Event.tells_ofEntry`). Following a trace hands the events of its entries
to the service of the session, in order (`Log.Session.follow_run`). What the events of a scan and of
its verdict tell is determined by the troubles of the source and the counters of the output
(`follow_judgedScan_run`).
-/

set_option autoImplicit false
set_option relaxedAutoImplicit false

namespace Lexeme

open Log (Entry Event Session Service Traced)
open Text (Follows)

/-! ### The steps of a logged scan -/

namespace Cursor

variable (settings : ScanSettings) {source : String} {cursor : Cursor}

/-- What a step logs that passes a piece. -/
def logOf (piece : Spanned Piece) : List Entry :=
  if settings.mode = .lenient && settings.logDropped then
    ((Diagnostic.ofPiece? piece).map Diagnostic.entry).toList
  else []

theorem logOf_eq_nil {piece : Spanned Piece} (hnone : Diagnostic.ofPiece? piece = none) :
    logOf settings piece = [] := by
  rw [logOf, hnone]
  split <;> rfl

/-- The trouble at a place is that of the text that stands there. -/
theorem noteTrouble_bind {α : Type} (kind : DiagnosticKind) {part rest : List Char}
    (hat : Follows source cursor.offset (part ++ rest)) (outcome : Except OffsetFault α) :
    let span : Span := ⟨cursor.offset, cursor.offset + Text.byteWidth part⟩
    (do noteTrouble settings source kind span; Traced.quiet outcome) =
      ⟨if settings.mode = .lenient && settings.logDropped then
          [(Diagnostic.make kind span part).entry]
        else [], outcome⟩ := by
  intro span
  have hslice : (span.slice? source).getD "" = String.ofList part := by
    rw [Span.slice?, hat.slice?]
    rfl
  rw [noteTrouble, hslice, String.toList_ofList]
  split
  · cases outcome <;> rfl
  · cases outcome <;> rfl

theorem dropTraced_eq {c : Char} {cs : List Char}
    (hat : Follows source cursor.offset ([c] ++ cs)) :
    cursor.dropTraced settings source c =
      ⟨logOf settings ⟨.stray c, cursor.offset, cursor.offset + c.utf8Size⟩,
        .ok (cursor.behind settings (.stray c))⟩ := by
  rw [dropTraced, spanTo_add, Log.Traced.quiet_bind_ok, drop_eq settings hat]
  have hwidth : c.utf8Size = Text.byteWidth [c] := by simp
  rw [hwidth]
  exact noteTrouble_bind settings .unrecognizedCharacter hat _

theorem absorbTraced_eq {cs : List Char} (hat : Follows source cursor.offset cs) :
    cursor.absorbTraced settings source =
      ⟨logOf settings ⟨.openString cs, cursor.offset, cursor.offset + Text.byteWidth cs⟩,
        .ok (cursor.behind settings (.openString cs))⟩ := by
  have hspan := spanTo_add cursor (Text.byteWidth cs)
  rw [hat.add_byteWidth] at hspan
  rw [absorbTraced, hspan, Log.Traced.quiet_bind_ok, absorb_eq settings hat, ← hat.add_byteWidth]
  rw [← List.append_nil cs] at hat
  exact noteTrouble_bind settings .unterminatedString hat _

/-- A piece at the cursor, with its place. -/
def placed (cursor : Cursor) (piece : Piece) : Spanned Piece :=
  ⟨piece, cursor.offset, cursor.offset + piece.width⟩

/-- One step passes the next piece and logs what there is to log about it. -/
theorem stepTraced_eq (cursor : Cursor) {c : Char} {cs : List Char}
    (hat : Follows source cursor.offset (c :: cs)) :
    cursor.stepTraced settings source =
      ⟨logOf settings (cursor.placed (Piece.next c cs).1),
        .ok (cursor.behind settings (Piece.next c cs).1)⟩ := by
  have hquiet (hnone : Diagnostic.ofPiece? (cursor.placed (Piece.next c cs).1) = none) :
      Traced.quiet (cursor.step settings source) =
        ⟨logOf settings (cursor.placed (Piece.next c cs).1),
          .ok (cursor.behind settings (Piece.next c cs).1)⟩ := by
    rw [step_eq settings cursor hat, logOf_eq_nil settings hnone]
    rfl
  have hkind (kind : TokenKind) (hstring : kind ≠ .string)
      (hclass : CharClass.of c = kind.startClass) :
      Diagnostic.ofPiece? (cursor.placed (Piece.next c cs).1) = none := by
    obtain ⟨token, -, hnext⟩ | ⟨rfl, -, -⟩ := ofKind?_cases hclass hat
    · rw [hnext]
      rfl
    · exact absurd rfl hstring
  rw [stepTraced, char?_eq hat]
  dsimp only [List.head?_cons]
  cases hclass : CharClass.of c with
  | digit => exact hquiet (hkind .number (by decide) hclass)
  | letter => exact hquiet (hkind .word (by decide) hclass)
  | operator => exact hquiet (hkind .operator (by decide) hclass)
  | delimiter => exact hquiet (hkind .delimiter (by decide) hclass)
  | whitespace =>
    refine hquiet ?_
    rw [Piece.next, hclass]
    rfl
  | other =>
    rw [Piece.next, hclass]
    exact dropTraced_eq settings hat
  | quote =>
    have hquote : CharClass.of c = TokenKind.string.startClass := hclass
    dsimp only
    rw [takeStringTraced]
    obtain ⟨token, hread, hnext⟩ | ⟨-, hread, hnext⟩ := ofKind?_cases hquote hat
    · rw [hread, Log.Traced.quiet_bind_ok, hnext, logOf_eq_nil settings rfl]
      dsimp only
      rw [take_eq settings token]
      rfl
    · rw [hread, Log.Traced.quiet_bind_ok, hnext]
      exact absorbTraced_eq settings hat

/-- The steps up to the end of a source log what there is to log about all pieces of what stands
there, in order. -/
theorem runTraced_eq (cursor : Cursor) {rest : List Char}
    (hat : Follows source cursor.offset rest) :
    cursor.runTraced settings source =
      ⟨(Piece.located cursor.offset rest).flatMap (logOf settings),
        cursor.run settings source⟩ := by
  rw [run_eq settings cursor hat]
  obtain ⟨offset, progress⟩ := cursor
  dsimp only at hat ⊢
  fun_induction Piece.fold (ScanProgress.pass settings) progress offset rest with
  | case1 progress offset =>
    have hend : offset = source.utf8ByteSize := hat.add_byteWidth
    rw [runTraced, if_neg (Nat.not_lt.mpr hend.ge), hend, Piece.located]
    rfl
  | case2 progress offset c cs found stop ih =>
    have hinside := hat.lt_size_iff.mpr (List.cons_ne_nil c cs)
    have hstep := stepTraced_eq settings ⟨offset, progress⟩ hat
    have hforward := offset_lt_behind settings ⟨offset, progress⟩ c cs
    have hrest : runTraced settings source
        (behind settings ⟨offset, progress⟩ (Piece.next c cs).1) = _ :=
      ih (follows_behind settings ⟨offset, progress⟩ hat)
    rw [runTraced, if_pos hinside, hstep]
    dsimp only
    rw [if_pos hforward, hrest, Piece.located, List.flatMap_cons]
    rfl

end Cursor

/-- All that the steps of a scan log is what it logs about its troubles. -/
theorem flatMap_logOf_ofSource (settings : ScanSettings) (source : String) :
    (Piece.ofSource source).flatMap (Cursor.logOf settings) = absorbed settings source := by
  unfold Cursor.logOf absorbed
  split
  · rw [Diagnostic.ofSource_eq, List.map_filterMap, List.filterMap_eq_flatMap_toList]
  · exact List.flatMap_eq_nil_iff.2 fun _ _ ↦ rfl

/-- A scan that logs step by step logs the same, and finds the same, as the scan that goes through
its pieces. -/
theorem scanStepwise_eq (settings : ScanSettings) (source : String) :
    scanStepwise settings source =
      ⟨(scanTraced settings source).trace, .ok (scan settings source)⟩ := by
  have hstart := Follows.start source
  have hrun := Cursor.runTraced_eq settings .start hstart
  rw [Cursor.run_eq settings .start hstart] at hrun
  have htrace : (Piece.located Cursor.start.offset source.toList).flatMap (Cursor.logOf settings) =
      absorbed settings source :=
    flatMap_logOf_ofSource settings source
  rw [htrace] at hrun
  rw [scanStepwise, hrun]
  simp only [Traced.forM_note]
  have hassoc : (scanTraced settings source).trace =
      scanStarted settings source :: (absorbed settings source ++
        ((scan settings source).limitReached ++ [(scan settings source).completed])) := by
    rw [scanTraced, List.append_assoc, List.cons_append]
  rw [hassoc]
  rfl

/-! ### Events -/

namespace Log

/-- What an event tells: its level, its code, its place, and some of its context. -/
structure Telling where
  level : Level
  code : Code
  span : Option Span := none
  facts : List (String × String) := []
  deriving DecidableEq

/-- The event tells this. -/
structure Event.Tells (event : Event) (telling : Telling) : Prop where
  level : event.level = telling.level
  code : event.code = telling.code
  span : event.span = telling.span
  facts : ∀ fact ∈ telling.facts, event.context.get? fact.1 = some fact.2

/-- The event of an entry tells what the entry holds. -/
theorem Event.tells_ofEntry {entry : Entry} {telling : Telling} (time : Time.Instant)
    (hroom : entry.context.length ≤ Limits.current.maxContextEntries)
    (hlevel : entry.level = telling.level) (hcode : entry.code = telling.code)
    (hspan : entry.span = telling.span)
    (hfacts : ∀ fact ∈ telling.facts, entry.context.reverse.lookup fact.1 = some fact.2) :
    (Event.ofEntry time entry).Tells telling := by
  have hcontext := context_ofEntry time entry
  unfold ofEntry at hcontext ⊢
  rw [addContexts_eq] at hcontext ⊢
  refine ⟨hlevel, hcode, hspan, fun fact hfact ↦ ?_⟩
  rw [hcontext, get?_gather_of_length_le entry.context fact.1 hroom]
  exact hfacts fact hfact

end Log

/-! ### The trace of a scan -/

section Trace

open Log (Telling)

/-- What is told about a scan: its start; on request every trouble that a lenient scan passes over,
whether it is kept or not; whether troubles were not kept, and how many; its end and its
counters. -/
def scanTellings (settings : ScanSettings) (source : String) : List Telling :=
  let output := scan settings source
  let troubles := troublesBetween source output.tokens
  let limit := Limits.current.maxDiagnostics
  let counters : List (String × String) := [
    ("tokens", toString output.metrics.totalTokens),
    ("whitespace_skipped", toString output.metrics.separatorsSkipped),
    ("characters_dropped", toString output.metrics.charactersDropped),
    ("unterminated_strings", toString output.metrics.unterminatedStrings)]
  { level := .debug, code := .plainDebug } ::
    (if settings.mode = .lenient ∧ settings.logDropped = true then
      troubles.map fun trouble ↦
        { level := .warning, code := trouble.value.code, span := some trouble.span }
    else []) ++
    (if limit < troubles.length then
      [{ level := .warning, code := .diagnosticLimitReached
         facts := [("stored", toString limit),
          ("suppressed", toString (troubles.length - limit))] }]
    else []) ++
    [{ level := .info, code := .scanCompleted, facts := counters }]

/-- What is told about the verdict of a scan mode: a strict one rejects a source for its first
trouble, and counts all of them. -/
def verdictTellings (mode : ScanMode) (troubles : List (Spanned DiagnosticKind)) : List Telling :=
  match mode, troubles with
  | .lenient, _ => []
  | .strict, [] => [{ level := .info, code := .strictScanPassed }]
  | .strict, first :: _ =>
    [{ level := .error, code := first.value.code, span := some first.span
       facts := [("total_diagnostics", toString troubles.length)] }]

variable (session : Session)

/-- The event of an entry tells what the entry holds, though the source at work is added to it. -/
theorem tells_eventOf {entry : Entry} {telling : Telling}
    (hroom : entry.context.length ≤ 4)
    (hlevel : entry.level = telling.level) (hcode : entry.code = telling.code)
    (hspan : entry.span = telling.span)
    (hfacts : ∀ fact ∈ telling.facts,
      fact.1 ≠ Event.sourceKey ∧ entry.context.reverse.lookup fact.1 = some fact.2) :
    (session.eventOf entry).Tells telling := by
  refine Event.tells_ofEntry session.now ?_ hlevel hcode hspan fun fact hfact ↦ ?_
  · have hsource : session.sourceContext.length ≤ 1 := by
      unfold Session.sourceContext
      split <;> simp
    have hlimit := Limits.ample_current.le_maxContextEntries
    rw [Entry.withContext, List.length_append]
    omega
  · obtain ⟨hkey, hlookup⟩ := hfacts fact hfact
    have hsource : session.sourceContext.reverse.lookup fact.1 = none := by
      unfold Session.sourceContext
      split
      · rw [List.reverse_singleton, Text.Dictionary.lookup_cons, if_neg hkey, List.lookup_nil]
      · rfl
    rw [Entry.withContext, List.reverse_append, List.lookup_append, hsource, Option.none_or]
    exact hlookup

/-- What is logged about a trouble tells its code and its place. -/
theorem tells_trouble (diagnostic : Diagnostic) :
    (session.eventOf diagnostic.entry).Tells
      { level := .warning, code := diagnostic.kind.code, span := some diagnostic.span } :=
  tells_eventOf session (show 2 ≤ 4 by decide) rfl rfl rfl
    fun _ hfact ↦ absurd hfact List.not_mem_nil

theorem Diagnostic.code_toError (diagnostic : Diagnostic) :
    diagnostic.toError.code = diagnostic.kind.code := by
  obtain ⟨kind, span, fragment⟩ := diagnostic
  cases kind <;> rfl

variable (settings : ScanSettings) (source : String)

/-- The troubles logged one by one are told in order. -/
theorem tells_absorbed :
    List.Forall₂ (fun entry telling ↦ (session.eventOf entry).Tells telling)
      (absorbed settings source)
      (if settings.mode = .lenient ∧ settings.logDropped = true then
        (troublesBetween source (scan settings source).tokens).map fun trouble ↦
          { level := .warning, code := trouble.value.code, span := some trouble.span }
      else []) := by
  by_cases hlogged : settings.mode = .lenient ∧ settings.logDropped = true
  · have hflags : (settings.mode = .lenient && settings.logDropped) = true := by simp [hlogged]
    rw [absorbed, if_pos hflags, if_pos hlogged, ← Diagnostic.map_spanned_ofSource settings,
      List.map_map, List.forall₂_map_left_iff, List.forall₂_map_right_iff, List.forall₂_same]
    exact fun diagnostic _ ↦ tells_trouble session diagnostic
  · have hflags : (settings.mode = .lenient && settings.logDropped) = false := by
      simpa using hlogged
    rw [absorbed, hflags, if_neg hlogged, if_neg Bool.false_ne_true]
    exact .nil

theorem length_troublesBetween_scan :
    (troublesBetween source (scan settings source).tokens).length =
      (Diagnostic.ofSource source).length := by
  rw [← Diagnostic.map_spanned_ofSource settings, List.length_map]

/-- That troubles were not kept is told if there are more of them than are kept. -/
theorem tells_limitReached :
    let troubles := troublesBetween source (scan settings source).tokens
    let limit := Limits.current.maxDiagnostics
    List.Forall₂ (fun entry telling ↦ (session.eventOf entry).Tells telling)
      (scan settings source).limitReached
      (if limit < troubles.length then
        [{ level := .warning, code := .diagnosticLimitReached
           facts := [("stored", toString limit),
            ("suppressed", toString (troubles.length - limit))] }]
      else []) := by
  intro troubles limit
  have hcount : troubles.length = (Diagnostic.ofSource source).length :=
    length_troublesBetween_scan settings source
  have hsuppressed : (scan settings source).suppressed = troubles.length - limit := by
    rw [hcount]
    exact suppressed_scan settings source
  rw [ScanOutput.limitReached, hsuppressed]
  by_cases hmore : limit < troubles.length
  · have hstored : (scan settings source).diagnostics.length = limit := by
      rw [diagnostics_scan, List.length_take, ← hcount]
      exact Nat.min_eq_left hmore.le
    rw [if_pos hmore, if_neg (by omega), hstored]
    refine .cons (tells_eventOf session (show 2 ≤ 4 by decide) rfl rfl rfl ?_) .nil
    simp [Event.sourceKey, Text.Dictionary.lookup_cons]
  · rw [if_neg hmore, if_pos (by omega)]
    exact .nil

/-- The end of a scan is told with its counters. -/
theorem tells_completed (output : ScanOutput) :
    (session.eventOf output.completed).Tells
      { level := .info, code := .scanCompleted
        facts := [
          ("tokens", toString output.metrics.totalTokens),
          ("whitespace_skipped", toString output.metrics.separatorsSkipped),
          ("characters_dropped", toString output.metrics.charactersDropped),
          ("unterminated_strings", toString output.metrics.unterminatedStrings)] } := by
  refine tells_eventOf session (show 4 ≤ 4 by decide) rfl rfl rfl ?_
  simp [Event.sourceKey, ScanOutput.completed, Log.Entry.withContext, Log.Entry.success,
    Text.Dictionary.lookup_cons]

/-- The trace of a scan tells its start, the troubles it passes over, and its end. -/
theorem tells_scanTraced :
    List.Forall₂ (fun entry telling ↦ (session.eventOf entry).Tells telling)
      (scanTraced settings source).trace (scanTellings settings source) := by
  refine .cons ?_ (List.rel_append (List.rel_append (tells_absorbed session settings source)
    (tells_limitReached session settings source)) (.cons (tells_completed session _) .nil))
  exact tells_eventOf session (show 3 ≤ 4 by decide) rfl rfl rfl
    fun _ hfact ↦ absurd hfact List.not_mem_nil

/-- The verdict of a strict scan tells the first trouble and the number of all, or that there is
none. -/
theorem tells_verdict (mode : ScanMode) :
    List.Forall₂ (fun entry telling ↦ (session.eventOf entry).Tells telling)
      ((scan settings source).verdict mode)
      (verdictTellings mode (troublesBetween source (scan settings source).tokens)) := by
  cases mode with
  | lenient => exact .nil
  | strict =>
    have hstrict : ScanMode.strict.isStrict = true := rfl
    have hcount := diagnosticCount_scan settings source
    have hdiagnostics := diagnostics_scan settings source
    rw [ScanOutput.verdict, if_pos hstrict, ← Diagnostic.map_spanned_ofSource settings, hcount,
      hdiagnostics]
    cases Diagnostic.ofSource source with
    | nil =>
      refine .cons (tells_eventOf session (show 1 ≤ 4 by decide) rfl rfl rfl ?_) .nil
      exact fun _ hfact ↦ absurd hfact List.not_mem_nil
    | cons first rest =>
      refine .cons (tells_eventOf session (show 3 ≤ 4 by decide) rfl first.code_toError rfl ?_) .nil
      simp [Event.sourceKey, Log.Entry.withContext, Log.Entry.error, Log.Entry.spanning,
        Text.Dictionary.lookup_cons]

/-! ### The events of a scan -/

/-- The events of a scan and of the verdict of its mode tell in order: its start; on request each
trouble that a lenient scan passes over, with its code and place, whether it is kept or not; that
troubles were not kept, if there are more than are kept; its counters; and, when it is strict, its
first trouble and the number of all, or that there is none. The output keeps the first troubles and
counts all of them. Step by step a scan logs the same. Every event is handed to the service, and one
for which no level is too detailed prints them all. -/
theorem follow_judgedScan_run {session : Session} {service : Service}
    (hservice : session.service = some service) :
    let output := scan settings source
    let troubles := troublesBetween source output.tokens
    let followed := (Session.follow (judgedScan settings source)).run session
    scanStepwise settings source = ⟨(scanTraced settings source).trace, .ok output⟩ ∧
    output.diagnostics.map Diagnostic.spanned = troubles.take Limits.current.maxDiagnostics ∧
    output.diagnostics.length + output.suppressed = troubles.length ∧
    ∃ events : List Event,
      List.Forall₂ Event.Tells events
        (scanTellings settings source ++ verdictTellings settings.mode troubles) ∧
      followed =
        (output.enforce settings.mode, session.printing (events.flatMap service.printed)) ∧
      ∀ structured, service = ⟨.ofSettings structured true .debug, .debug⟩ →
        followed.2.lines = session.lines ++
          events.map fun event ↦ if structured then event.jsonLine else event.line := by
  intro output troubles followed
  have hkept : output.diagnostics.map Diagnostic.spanned =
      troubles.take Limits.current.maxDiagnostics := by
    rw [diagnostics_scan, List.map_take, Diagnostic.map_spanned_ofSource settings]
  have hcount : output.diagnosticCount = troubles.length :=
    (diagnosticCount_scan settings source).trans
      (length_troublesBetween_scan settings source).symm
  have hfollowed : followed = (output.enforce settings.mode, session.printing
      (((judgedScan settings source).trace.map session.eventOf).flatMap service.printed)) :=
    Session.follow_run hservice (judgedScan settings source)
  refine ⟨scanStepwise_eq settings source, hkept, hcount,
    (judgedScan settings source).trace.map session.eventOf, ?_, hfollowed,
    fun structured hall ↦ ?_⟩
  · rw [List.forall₂_map_left_iff]
    exact List.rel_append (tells_scanTraced session settings source)
      (tells_verdict session settings source settings.mode)
  · have hprinted : service.printed =
        fun event ↦ [if structured then event.jsonLine else event.line] :=
      funext fun event ↦ hall ▸ Service.printed_ofSettings_debug structured event
    rw [hfollowed, Session.lines_printing, hprinted]
    exact congrArg (session.lines ++ ·) List.map_eq_flatMap.symm

/-- Two troubles of a lenient scan that logs each of them. -/
theorem follow_judgedScan_run_lenient :
    let service : Service := ⟨.ofSettings false true .debug, .debug⟩
    let session : Session :=
      { environment := .empty, now := .epoch, elapsed := .zero, service := some service }
    let settings : ScanSettings :=
      { ScanSettings.builtIn with mode := .lenient, logDropped := true }
    let tellings : List Telling := [
      { level := .debug, code := .plainDebug },
      { level := .warning, code := .unrecognizedCharacter, span := some ⟨2, 3⟩ },
      { level := .warning, code := .unterminatedString, span := some ⟨4, 6⟩ },
      { level := .info, code := .scanCompleted
        facts := [("tokens", "1"), ("whitespace_skipped", "2"), ("characters_dropped", "1"),
          ("unterminated_strings", "1")] }]
    ∃ events : List Event, List.Forall₂ Event.Tells events tellings ∧
      ((Session.follow (judgedScan settings "x @ \"y")).run session).2.lines =
        events.map Event.line := by
  intro service session settings tellings
  have hservice : session.service = some service := rfl
  obtain ⟨-, -, -, events, htells, -, hlines⟩ := follow_judgedScan_run settings "x @ \"y" hservice
  have htellings : scanTellings settings "x @ \"y" ++ verdictTellings settings.mode
      (troublesBetween "x @ \"y" (scan settings "x @ \"y").tokens) = tellings := by decide +kernel
  exact ⟨events, htellings ▸ htells, hlines false rfl⟩

end Trace

end Lexeme
