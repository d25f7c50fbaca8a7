import KeyScript.Store.Prepared
import KeyScript.Proofs.Script.Rendering
import KeyScript.Proofs.Script.Seams

/-! Scripts in sequence. A separator behind a text in which nothing is left open ends its
last command, so the plan of two texts with a separator between them is the plan of the
first and then that of the second. Running them does what running the first does and
goes on with the second unless the first has stopped. -/
namespace KeyScript.Script

/-- The text does not end inside a quoted string, nor with a backslash outside one. -/
def Settled (text : String) : Prop :=
  quoted text.toList = false ∧ text.toList.getLast? ≠ some '\\'

instance (text : String) : Decidable (Settled text) :=
  inferInstanceAs (Decidable (_ ∧ _))

/-- Nothing of a settled text is left over in front of a character that ends a word. -/
theorem Settled.reads (settled : Settled a) : ∃ offset column, ∀ more : List Char,
    (∀ c ∈ more.head?, endsWord c = true) →
      Reads ⟨0, 0, a.toList ++ more⟩ (tokens a) ⟨offset, column, more⟩ := by
  obtain ⟨closed, plain⟩ := settled
  obtain ⟨ts, taken, left, offset, column, whole, balanced, unfinished, reads⟩ :=
    reads_before a.toList 0 0
  obtain rfl : left = [] := by
    rcases quoted_unfinished unfinished with run | ⟨opened, _⟩
    · rcases List.eq_nil_or_concat left with empty | ⟨front, c, rfl⟩
      · exact empty
      · have sign : c = '\\' := by simpa [isEscape] using run c (by simp)
        rw [whole, sign] at plain
        simp at plain
    · rw [whole, quoted_append, balanced, opened] at closed
      contradiction
  have alone : tokens a = ts := by
    have read := (reads [] (by simp)).tokens
    rw [List.append_nil, List.nil_append, tokens_end, List.append_nil] at read
    exact read
  rw [alone]
  exact ⟨offset, column, reads⟩

theorem lexeme_of_mark {s : Char} (mark : s = ';' ∨ s = '\n') (tail : List Char) :
    ∃ kind, Lexeme kind [s] tail ∧ (kind = .terminator ∨ kind = .lineBreak) := by
  rcases mark with rfl | rfl
  · exact ⟨.terminator, .terminator, Or.inl rfl⟩
  · exact ⟨.lineBreak, .lineBreak, Or.inr rfl⟩

theorem Settled.tokens_append (settled : Settled a) {s : Char} (mark : s = ';' ∨ s = '\n')
    (b : String) : ∃ t n m, t.isSeparator = true ∧
      tokens (a ++ (String.singleton s ++ b)) = tokens a ++ t :: shiftedLines n m (tokens b) := by
  obtain ⟨offset, column, reads⟩ := settled.reads
  obtain ⟨kind, lexeme, separator⟩ := lexeme_of_mark mark b.toList
  have stop : ∀ c ∈ (s :: b.toList).head?, endsWord c = true := by
    rintro c ⟨⟩
    rcases mark with rfl | rfl <;> decide
  have step : Step ⟨offset, column, s :: b.toList⟩ (tokenAt offset column kind [s]) _ :=
    .of_lexeme lexeme
  refine ⟨tokenAt offset column kind [s], offset + 1, columnAfter kind column 1,
    by simpa [Token.isSeparator] using separator, ?_⟩
  rw [tokens_eq_scan, String.toList_append, String.toList_append, String.toList_singleton,
    List.singleton_append, scan, (reads _ stop).tokens, step.tokens, tokens_shifted]
  rfl

namespace WordScan

theorem fragment_foldl (idle : s.fragment = .nothing) (ts : List Token) :
    (ts.foldl feed s).fragment = .nothing := by
  induction ts generalizing s with
  | nil => exact idle
  | cons t ts ih => exact ih (fragment_feed idle)

/-- The pass over tokens sees kinds and texts only. -/
theorem foldl_shifted (n m : Nat) (ts : List Token) (s : WordScan) :
    (shiftedLines n m ts).foldl feed s = ts.foldl feed s := by
  rw [shiftedLines, List.foldl_append, List.foldl_map, List.foldl_map]
  have same : ∀ k, (fun (s : WordScan) (t : Token) => s.feed (t.shifted n k)) = feed :=
    fun _ => rfl
  rw [same, same, ← List.foldl_append, firstLine_append_lowerLines]

/-- Between two commands the pass starts again. -/
theorem foldl_between (idle : s.fragment = .nothing) (none : s.args = []) (ts : List Token) :
    (ts.foldl feed s).finish = s.commands ++ (ts.foldl feed start).finish := by
  have splits := splits_split 0 ts
  rw [foldl_feed idle splits, foldl_feed (s := start) rfl splits, none]
  rfl

theorem foldl_separated (separator : t.isSeparator = true) (ts us : List Token) :
    ((ts ++ t :: us).foldl feed start).finish =
      (ts.foldl feed start).finish ++ (us.foldl feed start).finish := by
  have idle := fragment_foldl (s := start) rfl ts
  rw [List.foldl_append, List.foldl_cons, (feed_separator separator).1]
  rw [foldl_between (s := endCommand _) idle rfl, ← finish_idle idle]

end WordScan

/-- The plan of a text is the pass over its tokens. -/
theorem plan_eq_foldl (text : String) :
    plan text = ((tokens text).foldl WordScan.feed .start).finish := by
  have splits := splits_split 0 (tokens text)
  have args : ∀ s ∈ split 0 (tokens text), Command.ofStatement s = ⟨argsOf s.tokens⟩ := by
    intro s member
    obtain ⟨mark, ended⟩ := splits.ended.2 s member
    rw [Command.ofStatement, ended.args]
    rfl
  have merged : (statements text).map (fun s => (⟨argsOf s.tokens⟩ : Command)) =
      (split 0 (tokens text)).map Command.ofStatement := by
    rw [List.map_congr_left args, statements, mergeAll, List.map_map]
    simp only [Function.comp_def, tokens_merge]
  rw [plan_eq_argsOf, merged, WordScan.foldl_feed (s := .start) rfl splits]
  by_cases empty : split 0 (tokens text) = []
  · simp [empty, WordScan.start, WordScan.continued, Command.isEmpty]
  · exact congrArg (List.filter _) (WordScan.continued_nil empty).symm

end KeyScript.Script

namespace KeyScript

theorem Outcome.isSuccess_iff {outcome : Outcome} :
    outcome.isSuccess = true ↔ ∃ text, outcome = .reply text := by
  cases outcome <;> simp [Outcome.isSuccess]

namespace Store

/-- More commands are run after the first ones exactly when all of these have replies. -/
theorem runCommands_append (store : Store σ) (first more : List Script.Command) (state : σ) :
    store.runCommands (first ++ more) state =
      let (outcomes, middle) := store.runCommands first state
      if ∀ outcome ∈ outcomes, outcome.isSuccess = true then
        let (others, last) := store.runCommands more middle
        (outcomes ++ others, last)
      else (outcomes, middle) := by
  induction first generalizing state with
  | nil => simp [runCommands]
  | cons command first ih =>
    rw [List.cons_append, runCommands, runCommands]
    generalize store.execute command.args state = answer
    obtain ⟨result, after⟩ := answer
    cases success : (Outcome.ofResult result).isSuccess with
    | false => simp [success]
    | true =>
      simp only [success, if_true, ih after, List.forall_mem_cons, true_and]
      split <;> rfl

/-- Two scripts with a separator between them are one after the other: the plan is that
of the first and then that of the second, and the second is run from the state that the
first has left, unless some command of the first had no value for an answer. -/
theorem run_separated (settled : Script.Settled a) {s : Char} (mark : s = ';' ∨ s = '\n')
    (b : String) :
    Script.plan (a ++ (String.singleton s ++ b)) = Script.plan a ++ Script.plan b ∧
    ∀ {σ : Type} (store : Store σ) (state : σ),
      ((∀ outcome ∈ (store.run a state).1, ∃ text, outcome = .reply text) →
        store.run (a ++ (String.singleton s ++ b)) state =
          ((store.run a state).1 ++ (store.run b (store.run a state).2).1,
            (store.run b (store.run a state).2).2)) ∧
      (¬(∀ outcome ∈ (store.run a state).1, ∃ text, outcome = .reply text) →
        store.run (a ++ (String.singleton s ++ b)) state = store.run a state) := by
  have planned : Script.plan (a ++ (String.singleton s ++ b)) =
      Script.plan a ++ Script.plan b := by
    obtain ⟨t, n, m, separator, joined⟩ := settled.tokens_append mark b
    simp only [Script.plan_eq_foldl, joined]
    rw [Script.WordScan.foldl_separated separator, Script.WordScan.foldl_shifted]
  refine ⟨planned, fun store state => ?_⟩
  simp only [run, planned, runCommands_append, ← Outcome.isSuccess_iff]
  exact ⟨fun all => if_pos all, fun stopped => if_neg stopped⟩

/-- The terminator in the string ends nothing. The one behind it does, and the second
script is sent after the reply to the first. -/
theorem run_separated_strings : Script.Settled "\"x;\"" ∧
    (Prepared.store.run ("\"x;\"" ++ (String.singleton ';' ++ "\"y\""))
      (.ofAnswers [.ok (.value "1"), .ok .nil])).1 = [.reply "1", .nil] := by
  have settled : Script.Settled "\"x;\"" := by decide
  have first : (Prepared.store.run "\"x;\"" (.ofAnswers [.ok (.value "1"), .ok .nil])).1 =
      [.reply "1"] := by decide +kernel
  have second : (Prepared.store.run "\"y\""
      (Prepared.store.run "\"x;\"" (.ofAnswers [.ok (.value "1"), .ok .nil])).2).1 = [.nil] := by
    decide +kernel
  have whole := ((run_separated settled (Or.inl rfl) "\"y\"").2 Prepared.store
    (.ofAnswers [.ok (.value "1"), .ok .nil])).1 (by simp [first])
  refine ⟨settled, ?_⟩
  rw [whole, first, second]
  rfl

end Store

end KeyScript
