/-
The names of functions, from their registration to a formula.

A name is put into upper case when it is registered, and a word of a formula
when it is looked for among the known names. Upper case stays as it is when
it is put into upper case again, in all scripts (`Text.upper_upper`). The
names of a registry that was filled by registrations are therefore the known
names of formulas as they stand (`Capital.map_upper`), and a word is the
name of a function in a formula just if the registry has it.
-/
import Worksheet.Aggregate.Registry
import Worksheet.Proofs.Token.Spelling

namespace Worksheet

open Text (upper upper_upper)

-- ============================================================== registries

namespace Registry

variable {r next : Registry} {name : String} {f : Aggregate}

/-- The registry after some registrations. One that is refused leaves it as it
is. -/
def registerAll (r : Registry) (calls : List (String × Aggregate)) : Registry :=
  calls.foldl (fun r call => (r.register call.1 call.2).toOption.getD r) r

/-- Every name is in upper case. -/
def Capital (r : Registry) : Prop :=
  ∀ name ∈ r.names, upper name = name

theorem Capital.builtin : builtin.Capital := by
  intro name hname
  rw [List.mem_singleton.mp hname]
  rfl

/-- A registration brings in a name in upper case, and no other. -/
theorem Capital.register (h : r.Capital) (hreg : r.register name f = .ok next) :
    next.Capital := by
  unfold Registry.register at hreg
  split at hreg
  · cases hreg
    intro other hother
    rcases List.mem_cons.mp hother with rfl | hother
    · exact upper_upper name
    · obtain ⟨entry, hentry, rfl⟩ := List.mem_map.mp hother
      exact h _ (List.mem_map_of_mem (List.mem_of_mem_filter hentry))
  · cases hreg

theorem Capital.registerAll {calls : List (String × Aggregate)}
    (h : r.Capital) :
    (r.registerAll calls).Capital := by
  induction calls generalizing r with
  | nil => exact h
  | cons call calls ih =>
      refine ih ?_
      dsimp only
      cases hreg : r.register call.1 call.2 with
      | error fault => exact h
      | ok next => exact h.register hreg

/-- The known names of formulas are the names as they stand. -/
theorem Capital.map_upper (h : r.Capital) : r.names.map upper = r.names := by
  rw [List.map_congr_left h, List.map_id']

private theorem isSome_get?_iff :
    (r.get? name).isSome = true ↔ upper name ∈ r.names := by
  rw [get?, List.lookup_isSome_iff, names, List.mem_map]
  simp only [beq_iff_eq, eq_comm (a := upper name)]

/-- The registry has just those functions whose names are known to formulas. -/
theorem Capital.has_iff (h : r.Capital) :
    r.has name = true ↔ upper name ∈ r.names.map upper := by
  rw [h.map_upper]
  exact isSome_get?_iff

/-- A function is found under its name in upper case. -/
theorem get?_ne_none (hname : name ∈ r.names) (hupper : upper name = name) :
    r.get? name ≠ none := by
  rw [← Option.isSome_iff_ne_none, isSome_get?_iff, hupper]
  exact hname

end Registry

-- =================================================================== words

section

variable {known keywords : List String} {run : List Char}

/-- Some letters are the name of a function just if their upper case is
known. -/
theorem readPiece_eq_function_iff (hne : run ≠ [])
    (hletters : ∀ c ∈ run, c.isAlpha = true) :
    readPiece known run = .token .function ↔
      upper (String.ofList run) ∈ known := by
  constructor
  · intro h
    have hmem : run ∈ pieces run := by
      rw [pieces_run hne fun c hc => isRunChar_of_isAlpha (hletters c hc)]
      exact List.mem_cons_self
    exact (spelled_of_readPiece hmem h).2.2
  · intro hknown
    have hspelled : Spelled known .function run := ⟨hne, hletters, hknown⟩
    exact readPiece_of_spelled hspelled

/-- A text of nothing but letters is one piece, and becomes what that piece
is. -/
theorem tokenize_eq_function_iff (hne : run ≠ [])
    (hletters : ∀ c ∈ run, c.isAlpha = true) :
    tokenize keywords none (String.ofList run) =
        .ok (.ok [⟨.function, String.ofList run, 0⟩, ⟨.eof, "", run.length⟩]) ↔
      upper (String.ofList run) ∈ keywords.map upper := by
  have hcut : tokenize keywords none (String.ofList run) =
      .ok (tokensOfPieces (keywords.map upper) 0 [run]) := by
    have hpieces := pieces_run hne fun c hc => isRunChar_of_isAlpha
      (hletters c hc)
    show Except.ok (tokensOfPieces _ 0 (pieces (String.ofList run).toList)) = _
    rw [String.toList_ofList, hpieces]
  rw [← readPiece_eq_function_iff hne hletters, hcut, tokensOfPieces]
  cases readPiece (keywords.map upper) run with
  | blank => simp [tokensOfPieces]
  | bad kind => simp
  | token kind => simp [tokensOfPieces, Except.map]

end

end Worksheet
