import Outbox.Proofs.Database.Meaning

/-!
# A database server

A server gets texts with the values of their parameters, and replies. It executes the statements of
the program when whatever it replies and keeps is an outcome of the command that the text is written
from, with the values that were sent. Nothing is assumed of a server beyond that: it may keep its
rows in any order, list them in any order where none is asked for, and report any one of several
violations.

`execute` is a server that does so. All that it goes by is the text.
-/

namespace Outbox.Database

/-! ## What a server does -/

/-- A server replies to a text with the values of its parameters, which some texts do not have, and
may change with it. -/
abbrev Server (World : Type) := World → String → Option (List Datum) → Reply × World

section Server

variable {World : Type}

/-- The reply to a statement and the server afterwards. -/
def Server.reply (server : Server World) (world : World) (statement : Statement) :
    Reply × World :=
  server world statement.text statement.parameters?

/-- A server executes every statement with parameters: what comes of it is an outcome of its
command. Of the others, which create tables or open and end units of work, nothing is said. -/
def Server.Executes (server : Server World) (content : World → Content) : Prop :=
  ∀ (world : World) (statement : Statement) (parameters : List Datum),
    statement.parameters? = some parameters →
      statement.command.Outcome (content world) parameters (server.reply world statement).1
        (content (server.reply world statement).2)

end Server

/-! ## What an outcome says -/

namespace Command.Outcome

variable {content after : Content} {parameters : List Datum} {reply : Reply} {table : TableName}

/-- A command that writes is carried out, or refused for what it would violate. The server may
choose which violation it reports, and leaves the rows alone then. -/
theorem of_effect {command : Command} {effect : Effect}
    (outcome : command.Outcome content parameters reply after)
    (does : command.effect? content parameters = some (table, effect)) :
    (reply = .ok ⟨effect.affected, []⟩ ∧
      (∀ violation, effect.violates content table violation = false) ∧
      after.Same (effect.applied content table)) ∨
    ∃ violation reason, effect.violates content table violation = true ∧
      reply = .error (.refused (some violation.code) reason) ∧ after.Same content := by
  cases outcome with
  | written doesThis allowed same =>
    obtain ⟨rfl, rfl⟩ := Prod.mk.inj (Option.some.inj (doesThis.symm.trans does))
    exact .inl ⟨rfl, allowed, same⟩
  | refused doesThis violation violated reason same =>
    obtain ⟨rfl, rfl⟩ := Prod.mk.inj (Option.some.inj (doesThis.symm.trans does))
    exact .inr ⟨violation, reason, violated, rfl, same⟩
  | selected | summarized => cases does

/-- A command that violates nothing is carried out. -/
theorem of_allowed {command : Command} {effect : Effect}
    (outcome : command.Outcome content parameters reply after)
    (does : command.effect? content parameters = some (table, effect))
    (allowed : ∀ violation, effect.violates content table violation = false) :
    reply = .ok ⟨effect.affected, []⟩ ∧ after.Same (effect.applied content table) := by
  rcases outcome.of_effect does with ⟨replied, _, same⟩ | ⟨violation, _, violated, _⟩
  · exact ⟨replied, same⟩
  · rw [allowed violation] at violated
    cases violated

/-- A selection lists the rows that it chooses in an order that it may ask for. -/
theorem of_select {columns : List String} {among : List Condition} {order : List Sorting}
    (outcome : (select table columns among order).Outcome content parameters reply after) :
    ∃ affected, ∃ rows : List Row, rows.Perm ((content table).filter (chosen parameters among)) ∧
      rows.Pairwise (fun left right => left.upTo order right = true) ∧
      reply = .ok ⟨affected, rows.map (Row.pick columns)⟩ ∧ after.Same content := by
  cases outcome with
  | written does | refused does => cases does
  | selected affected perm ordered same => exact ⟨affected, _, perm, ordered, rfl, same⟩

/-- A summary brings back one row with what it says of the table. -/
theorem of_summarize {summaries : List Summary}
    (outcome : (summarize table summaries).Outcome content parameters reply after) :
    ∃ affected values, List.Forall₂ (Summary.Gives parameters (content table)) summaries values ∧
      reply = .ok ⟨affected, [(summaries.map Summary.name).zip values]⟩ ∧ after.Same content := by
  cases outcome with
  | written does | refused does => cases does
  | summarized affected gives same => exact ⟨affected, _, gives, rfl, same⟩

end Command.Outcome

/-! ## Listing and summing up -/

/-- A list is up to itself. -/
theorem upTo_refl (list : List Int) : upTo list list = true := by
  induction list with
  | nil => rfl
  | cons head tail inductionHypothesis => simp [upTo, inductionHypothesis]

/-- Of two lists one is up to the other. -/
theorem upTo_total (left right : List Int) : (upTo left right || upTo right left) = true := by
  induction left, right using upTo.induct with
  | case1 right => simp [upTo]
  | case2 head tail => simp [upTo]
  | case3 left lefts right rights inductionHypothesis =>
    simp only [upTo, Bool.or_eq_true, Bool.and_eq_true, decide_eq_true_eq] at *
    rcases Int.lt_trichotomy left right with smaller | rfl | larger
    · exact .inl (.inl smaller)
    · exact inductionHypothesis.imp (.inr ⟨rfl, ·⟩) (.inr ⟨rfl, ·⟩)
    · exact .inr (.inl larger)

/-- Of two lists that do not come after one another none has a number that the other one lacks. -/
theorem eq_of_upTo {left right : List Int} (forth : upTo left right = true)
    (back : upTo right left = true) : left = right := by
  induction left, right using upTo.induct with
  | case1 right =>
    cases right with
    | nil => rfl
    | cons head tail => cases back
  | case2 head tail => cases forth
  | case3 left lefts right rights inductionHypothesis =>
    simp only [upTo, Bool.or_eq_true, Bool.and_eq_true, decide_eq_true_eq] at forth back
    rcases forth with smaller | ⟨rfl, forth⟩
    · omega
    · rcases back with smaller | ⟨_, back⟩
      · omega
      · rw [inductionHypothesis forth back]

/-- What is up to a list that is up to a third one is up to the third one. -/
theorem upTo_trans {first second third : List Int} (firstSecond : upTo first second = true)
    (secondThird : upTo second third = true) : upTo first third = true := by
  induction first, second using upTo.induct generalizing third with
  | case1 second => rw [upTo]
  | case2 head tail => cases firstSecond
  | case3 left lefts right rights inductionHypothesis =>
    cases third with
    | nil => cases secondThird
    | cons last lasts =>
      simp only [upTo, Bool.or_eq_true, Bool.and_eq_true, decide_eq_true_eq] at *
      rcases firstSecond with smaller | ⟨same, firstTails⟩
      · omega
      · rcases secondThird with smaller | ⟨sameThird, secondTails⟩
        · omega
        · exact .inr ⟨same.trans sameThird, inductionHypothesis firstTails secondTails⟩

/-- The order of rows is transitive, whatever they are sorted by. -/
theorem Row.upTo_trans (order : List Sorting) (first second third : Row)
    (firstSecond : first.upTo order second = true) (secondThird : second.upTo order third = true) :
    first.upTo order third = true := by
  induction order with
  | nil => rfl
  | cons sorting order inductionHypothesis =>
    simp only [upTo] at *
    grind [Database.upTo_trans, eq_of_upTo]

/-- Of two rows one may be listed before the other one. -/
theorem Row.upTo_total (order : List Sorting) (left right : Row) :
    (left.upTo order right || right.upTo order left) = true := by
  induction order with
  | nil => rfl
  | cons sorting order inductionHypothesis =>
    simp only [upTo]
    grind [Database.upTo_total]

/-- The least of some values, if there are any. -/
def leastOf? : List Datum → Option Datum
  | [] => none
  | value :: rest =>
    match leastOf? rest with
    | none => some value
    | some least => if upTo value.place least.place then some value else some least

/-- The least of some values is one of them and comes after none. Of equal values the computation
takes one, where the specification leaves the choice open. -/
theorem leastOf?_spec {values : List Datum} {least : Datum} (found : leastOf? values = some least) :
    least ∈ values ∧ ∀ value ∈ values, upTo least.place value.place = true := by
  induction values generalizing least with
  | nil => cases found
  | cons value rest inductionHypothesis =>
    rw [leastOf?] at found
    cases others : leastOf? rest with
    | none =>
      rw [others] at found
      cases rest with
      | nil => grind [upTo_refl]
      | cons next more =>
        rw [leastOf?] at others
        grind
    | some former =>
      rw [others] at found
      obtain ⟨member, first⟩ := inductionHypothesis others
      grind [upTo_refl, Database.upTo_trans, Database.upTo_total]

/-- What a summary says of some rows. -/
def Summary.value (parameters : List Datum) (rows : List Row) (summary : Summary) : Datum :=
  match summary.aggregate with
  | .count => .int8 (rows.countP (chosen parameters summary.among))
  | .least column =>
    (leastOf? (((rows.filter (chosen parameters summary.among)).map (·.value column)).filter
      fun value => value.type? ≠ none)).getD .null

/-- The value that is computed of a summary is one that the summary gives, so that the specification
of summaries can be met. -/
theorem Summary.gives_value (parameters : List Datum) (rows : List Row) (summary : Summary) :
    summary.Gives parameters rows (summary.value parameters rows) := by
  rw [Gives, value]
  cases summary.aggregate with
  | count => rfl
  | least column =>
    dsimp only
    rw [IsLeast]
    generalize List.filter _ _ = present
    cases found : leastOf? present with
    | none =>
      left
      cases present with
      | nil => exact ⟨rfl, rfl⟩
      | cons value rest =>
        rw [leastOf?] at found
        grind
    | some least => exact .inr (leastOf?_spec found)

/-! ## A server -/

/-- What comes of a command on a server that keeps its rows in the order in which they came. -/
def Command.carriedOut (content : Content) (parameters : List Datum) (command : Command) :
    Reply × Content :=
  match command.effect? content parameters, command with
  | some (table, effect), _ =>
    match Violation.all.find? (effect.violates content table) with
    | some violation => (.error (.refused (some violation.code) "violated constraint"), content)
    | none => (.ok ⟨effect.affected, []⟩, effect.applied content table)
  | none, .select table columns among order =>
    let rows := ((content table).filter (chosen parameters among)).mergeSort (Row.upTo order)
    (.ok ⟨rows.length, rows.map (Row.pick columns)⟩, content)
  | none, .summarize table summaries =>
    let values := summaries.map (Summary.value parameters (content table))
    (.ok ⟨1, [(summaries.map Summary.name).zip values]⟩, content)
  | none, _ => (.ok .empty, content)

/-- A command that writes is carried out or refused. -/
theorem Command.outcome_of_effect {content : Content} {parameters : List Datum} {command : Command}
    {table : TableName} {effect : Effect}
    (does : command.effect? content parameters = some (table, effect)) :
    command.Outcome content parameters (command.carriedOut content parameters).1
      (command.carriedOut content parameters).2 := by
  simp only [carriedOut, does]
  cases found : Violation.all.find? (effect.violates content table) with
  | some violation =>
    exact .refused does violation (List.find?_some found) _ (.refl content)
  | none =>
    refine .written does (fun violation => ?_) (.refl _)
    have listed : violation ∈ Violation.all := by cases violation <;> decide
    exact Bool.eq_false_iff.mpr (List.find?_eq_none.mp found violation listed)

/-- The commands of all statements. -/
def Statement.commands : List Command :=
  [schema, beginWork, commitWork, rollbackWork, insertRecord default, recordsWithStatus .pending,
    updateStatus default .sent default, statusOf default, deleteRecords .sent default, statistics,
    deliveries, parkedDeliveries, saveDelivery default, clearDelivery default,
    requeue default default, categories].map command

/-- The command of every statement is one of the listed ones. -/
theorem Statement.command_mem (statement : Statement) : statement.command ∈ commands := by
  have listed : commands.contains statement.command = true := by cases statement <;> rfl
  exact List.contains_iff_mem.mp listed

/-- Commands of different statements have different texts. -/
theorem Statement.pairwise_text :
    commands.Pairwise fun command other => command.text ≠ other.text := by
  decide +kernel

/-- A server that finds out which command a text is, and carries it out. -/
def execute : Server Content := fun content text parameters =>
  match Statement.commands.find? fun command => command.text = text with
  | some command => command.carriedOut content (parameters.getD [])
  | none => (.error (.refused (some "42601") "syntax error"), content)

/-- The text of a statement tells the server which command it is. -/
theorem reply_execute (content : Content) (statement : Statement) :
    execute.reply content statement =
      statement.command.carriedOut content (statement.parameters?.getD []) := by
  have found : Statement.commands.find? (fun command => command.text = statement.text) =
      some statement.command := by
    obtain ⟨earlier, later, split⟩ := List.append_of_mem statement.command_mem
    have distinct := Statement.pairwise_text
    rw [split, List.pairwise_append] at distinct
    rw [List.find?_eq_some_iff_append]
    refine ⟨decide_eq_true rfl, earlier, later, split, fun command before => ?_⟩
    have other := distinct.2.2 command before statement.command List.mem_cons_self
    exact congrArg not (decide_eq_false other)
  rw [Server.reply, execute, found]

/-- This server executes the statements. -/
theorem executes_execute : execute.Executes id := by
  intro content statement parameters sent
  rw [reply_execute, sent, Option.getD_some]
  cases statement with
  | schema | beginWork | commitWork | rollbackWork => cases sent
  | insertRecord | updateStatus | deleteRecords | saveDelivery | clearDelivery | requeue =>
    exact Command.outcome_of_effect rfl
  | recordsWithStatus | statusOf | deliveries | parkedDeliveries | categories =>
    exact .selected _ (List.mergeSort_perm _ _)
      (List.pairwise_mergeSort (Row.upTo_trans _) (Row.upTo_total _) _) (.refl content)
  | statistics =>
    refine .summarized _ ?_ (.refl content)
    rw [List.forall₂_map_right_iff]
    exact List.forall₂_same.mpr fun summary _ => summary.gives_value parameters _

end Outbox.Database
