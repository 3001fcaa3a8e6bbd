import PluginLens.Service.Session

/-!
# One connection of the inspection service

A connection's lines are answered one at a time, in order. This module says what each request
line is owed (`Answers`, one rule per kind of line, with the texts of the error replies) and
what a whole connection does: every line up to the first shutdown request is read and, unless
blank, answered by exactly one reply; the shutdown request's reply is written, the shared flag
is raised after it, and no later line is read. Without a shutdown request every line is read
and the flag is never raised.

What one line does is said once (`handleConnection_cons`, `handleConnection_cons_of_shutdown`);
a run over the lines before the shutdown request follows by induction
(`handleConnection_append`). The main statement is `handleConnection_protocol`.
-/

namespace PluginLens.Service

open PluginLens.Text PluginLens.Json

/-- A line that is blank once trimmed: it gets no answer. -/
def Blank (line : String) : Prop := (trimWhite line).isEmpty = true

/-- A line that asks the service to shut down: not blank, and once trimmed it decodes to a
request whose command is `SHUTDOWN`. -/
def ShutdownLine (line : String) : Prop :=
  ¬Blank line ∧ ∃ r, Request.decode (trimWhite line) = .ok r ∧ r.command = "SHUTDOWN"

/-- The commands the service knows. -/
def knownCommands : List String := ["PING", "INTROSPECT", "SHUTDOWN"]

/-- The reply a trimmed request line `t` is owed, and whether the line ends the session. A line
that is no request, names a command the service does not know, or is an `INTROSPECT` without a
string `path` among its parameters gets an error reply; every other line gets its data. -/
inductive Answers (ins : Inspector) (t : String) : Reply → Bool → Prop
  | malformed (e : ReadError) : Request.decode t = .error e →
      Answers ins t (.failure ("Invalid JSON format: " ++ e.message)) false
  | unknown (r : Request) : Request.decode t = .ok r → r.command ∉ knownCommands →
      Answers ins t (.failure ("Unknown command: " ++ r.command)) false
  | noParams (r : Request) : Request.decode t = .ok r → r.command = "INTROSPECT" →
      r.params = none → Answers ins t (.failure "Missing params for INTROSPECT") false
  | noPath (r : Request) (p : Json) : Request.decode t = .ok r → r.command = "INTROSPECT" →
      r.params = some p → (∀ path, p.get? "path" ≠ some (.str path)) →
      Answers ins t (.failure "Missing 'path' param") false
  | ping (r : Request) : Request.decode t = .ok r → r.command = "PING" →
      Answers ins t (.success (.str "PONG")) false
  | introspect (r : Request) (p : Json) (path : String) : Request.decode t = .ok r →
      r.command = "INTROSPECT" → r.params = some p → p.get? "path" = some (.str path) →
      Answers ins t (.success (ins.inspect path).report.toJson) false
  | shutdown (r : Request) : Request.decode t = .ok r → r.command = "SHUTDOWN" →
      Answers ins t (.success shutdownData) true

/-- What one line does when it does not end the session: it is read and, unless blank,
answered. -/
def lineEffects (ins : Inspector) (line : String) : List Effect :=
  .read line :: if (trimWhite line).isEmpty then [] else [.write (answerLine ins (trimWhite line)).1]

variable {ins : Inspector} {t : String}

/-! ## One request line -/

theorem Request.run_answers {r : Request} (hd : Request.decode t = .ok r) :
    Answers ins t (r.run ins).1 (r.run ins).2 := by
  unfold Request.run
  split
  · exact .ping r hd ‹_›
  · rename_i hc
    split
    · exact .noParams r hd hc ‹_›
    · rename_i p hp
      split
      · exact .introspect r p _ hd hc hp ‹_›
      · rename_i hpath
        exact .noPath r p hd hc hp fun path h => hpath path h
  · exact .shutdown r hd ‹_›
  · rename_i hping hintro hshut
    refine .unknown r hd ?_
    simp only [knownCommands, List.mem_cons, List.not_mem_nil, or_false, not_or]
    exact ⟨hping, hintro, hshut⟩

theorem answerLine_answers (ins : Inspector) (t : String) :
    Answers ins t (answerLine ins t).1 (answerLine ins t).2 := by
  unfold answerLine
  cases hd : Request.decode t with
  | error e => exact .malformed e hd
  | ok r => exact Request.run_answers hd

/-- Only the reply it is owed. -/
theorem answerLine_of_answers {reply : Reply} {stop : Bool} (h : Answers ins t reply stop) :
    answerLine ins t = (reply, stop) := by
  cases h with
  | malformed e hd => simp [answerLine, hd]
  | unknown r hd hc =>
    simp only [knownCommands, List.mem_cons, List.not_mem_nil, or_false, not_or] at hc
    obtain ⟨hping, hintro, hshut⟩ := hc
    simp only [answerLine, hd, Request.run]
  | noParams r hd hc hp => simp [answerLine, hd, Request.run, hc, hp]
  | noPath r p hd hc hp hpath =>
    simp only [answerLine, hd, Request.run, hc, hp]
  | ping r hd hc => simp [answerLine, hd, Request.run, hc]
  | introspect r p path hd hc hp hpath => simp [answerLine, hd, Request.run, hc, hp, hpath]
  | shutdown r hd hc => simp [answerLine, hd, Request.run, hc]

theorem answerLine_eq_iff {reply : Reply} {stop : Bool} :
    answerLine ins t = (reply, stop) ↔ Answers ins t reply stop :=
  ⟨fun h => by simpa [h] using answerLine_answers ins t, answerLine_of_answers⟩

/-- A line ends the session exactly when it is a shutdown request. -/
theorem Answers.stop_iff {reply : Reply} {stop : Bool} (h : Answers ins t reply stop) :
    stop = true ↔ ∃ r, Request.decode t = .ok r ∧ r.command = "SHUTDOWN" := by
  -- a line decodes to at most one request, so only the shutdown rule can end the session
  have other : ∀ r, Request.decode t = .ok r → r.command ≠ "SHUTDOWN" →
      (false = true ↔ ∃ r, Request.decode t = .ok r ∧ r.command = "SHUTDOWN") := by
    intro r hd hc
    simp only [Bool.false_eq_true, false_iff, not_exists, not_and]
    intro r' hd'
    rw [hd, Except.ok.injEq] at hd'
    exact hd' ▸ hc
  cases h with
  | malformed e hd => simp [hd]
  | unknown r hd hc => exact other r hd (by simp_all [knownCommands])
  | noParams r hd hc => exact other r hd (by simp [hc])
  | noPath r p hd hc => exact other r hd (by simp [hc])
  | ping r hd hc => exact other r hd (by simp [hc])
  | introspect r p path hd hc => exact other r hd (by simp [hc])
  | shutdown r hd hc => exact ⟨fun _ => ⟨r, hd, hc⟩, fun _ => rfl⟩

theorem Answers.reply_of_stop {reply : Reply} (h : Answers ins t reply true) :
    reply = .success shutdownData := by
  cases h
  rfl

/-! ## One line of a connection, then a run of them -/

variable {line : String} {rest : List String}

theorem handleConnection_cons_of_shutdown (h : ShutdownLine line) :
    handleConnection ins (line :: rest) =
      [.read line, .write (.success shutdownData), .raiseShutdown] := by
  obtain ⟨hblank, hreq⟩ := h
  have hans := answerLine_answers ins (trimWhite line)
  have hstop : (answerLine ins (trimWhite line)).2 = true := (hans.stop_iff).2 hreq
  have hreply := Answers.reply_of_stop (hstop ▸ hans)
  have hblank' : ¬(trimWhite line).isEmpty = true := hblank
  have hal : answerLine ins (trimWhite line) = (.success shutdownData, true) :=
    Prod.ext hreply hstop
  rw [handleConnection, if_neg hblank', hal]

/-- A line that does not end the session is read, answered unless blank, and the connection
goes on. -/
theorem handleConnection_cons (h : ¬ShutdownLine line) :
    handleConnection ins (line :: rest) = lineEffects ins line ++ handleConnection ins rest := by
  rw [handleConnection, lineEffects]
  by_cases hblank : (trimWhite line).isEmpty = true
  · simp [hblank]
  · have hans := answerLine_answers ins (trimWhite line)
    have hstop : (answerLine ins (trimWhite line)).2 = false := by
      rw [Bool.eq_false_iff]
      exact fun hs => h ⟨hblank, (hans.stop_iff).1 hs⟩
    rw [if_neg hblank, if_neg hblank]
    generalize answerLine ins (trimWhite line) = a at hstop ⊢
    obtain ⟨reply, stop⟩ := a
    subst hstop
    rfl

theorem handleConnection_append {pre : List String} (hpre : ∀ l ∈ pre, ¬ShutdownLine l)
    (rest : List String) :
    handleConnection ins (pre ++ rest) = pre.flatMap (lineEffects ins) ++ handleConnection ins rest := by
  induction pre with
  | nil => rfl
  | cons l pre ih =>
    rw [List.cons_append, handleConnection_cons (hpre l List.mem_cons_self),
      ih fun l' hl' => hpre l' (List.mem_cons_of_mem l hl'), List.flatMap_cons, List.append_assoc]

theorem lineEffects_raisesShutdown (ins : Inspector) (line : String) :
    ∀ e ∈ lineEffects ins line, e.raisesShutdown = false := by
  unfold lineEffects
  split <;> simp [Effect.raisesShutdown]

/-- One connection of the service. Up to the first shutdown request, every line is read and,
unless it is blank once trimmed, answered by exactly one reply, in order; the shutdown request
is read and answered, the shared flag is raised after its reply is written, and no later line
is read. Without a shutdown request, every line is read and answered and the flag is never
raised. A line is answered by what it is owed: an error reply, which does not end the session,
for a line that is no request, names an unknown command or is an `INTROSPECT` without a string
`path`; otherwise `PONG`, the report of the named file, or the shutdown notice. -/
theorem handleConnection_protocol (ins : Inspector) (lines : List String) :
    (∀ pre l post, lines = pre ++ l :: post → (∀ l' ∈ pre, ¬ShutdownLine l') → ShutdownLine l →
      handleConnection ins lines =
        pre.flatMap (lineEffects ins) ++
          [.read l, .write (.success shutdownData), .raiseShutdown]) ∧
    ((∀ l ∈ lines, ¬ShutdownLine l) →
      handleConnection ins lines = lines.flatMap (lineEffects ins) ∧
        ∀ e ∈ handleConnection ins lines, e.raisesShutdown = false) ∧
    (∀ t reply stop, answerLine ins t = (reply, stop) ↔ Answers ins t reply stop) := by
  refine ⟨?stops, ?runs, fun _ _ _ => answerLine_eq_iff⟩
  case stops =>
    rintro pre l post rfl hpre hl
    rw [handleConnection_append hpre, handleConnection_cons_of_shutdown hl]
  case runs =>
    intro hnone
    have hall : handleConnection ins lines = lines.flatMap (lineEffects ins) := by
      simpa [handleConnection] using handleConnection_append hnone []
    refine ⟨hall, ?_⟩
    rw [hall]
    intro e he
    obtain ⟨l, -, hel⟩ := List.mem_flatMap.1 he
    exact lineEffects_raisesShutdown ins l e hel

end PluginLens.Service
