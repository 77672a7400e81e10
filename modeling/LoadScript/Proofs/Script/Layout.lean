import LoadScript.Proofs.Script.Statements
import LoadScript.Script.Functions

/-!
Texts of statements, told by the texts of their parts. Blank lines separate the parts of a program, and those
at its end are left out.
-/

namespace LoadScript.Script

variable {unit : String} {level : Int} {first second body : List Stmt}

def IsClosed (body : List Stmt) : Prop :=
  ∃ start last, body = start ++ [last] ∧ last.isBlank = false

theorem isClosed_singleton {stmt : Stmt} (solid : stmt.isBlank = false) : IsClosed [stmt] :=
  ⟨[], stmt, rfl, solid⟩

theorem IsClosed.append (closed : IsClosed second) (first : List Stmt) : IsClosed (first ++ second) := by
  obtain ⟨start, last, rfl, solid⟩ := closed
  exact ⟨first ++ start, last, by simp, solid⟩

theorem isClosed_of_solid (nonempty : body ≠ []) (solid : ∀ stmt ∈ body, stmt.isBlank = false) :
    IsClosed body := by
  obtain ⟨start, last, rfl⟩ := (List.eq_nil_or_concat body).resolve_left nonempty
  exact ⟨start, last, by simp, solid last (by simp)⟩

theorem render_eq (unit : String) (level : Int) (program : List Stmt) :
    render unit level program = endedLines (bodyLines unit level program) := by
  rw [render]
  cases bodyLines unit level program with
  | nil => rfl
  | cons line rest => exact intercalate_feeds rest line

theorem bodyLines_append_closed (closed : IsClosed second) :
    bodyLines unit level (first ++ second) =
      first.flatMap (stmtLines unit level) ++ bodyLines unit level second := by
  obtain ⟨start, last, rfl, solid⟩ := closed
  induction first with
  | nil => rfl
  | cons stmt rest ih =>
      have notAll : (stmt.isBlank && (rest ++ (start ++ [last])).all Stmt.isBlank) = false := by
        simp [solid]
      rw [List.cons_append, bodyLines, notAll, if_neg Bool.false_ne_true, ih, List.flatMap_cons,
        List.append_assoc]

theorem IsClosed.bodyLines_eq (closed : IsClosed body) :
    bodyLines unit level body = body.flatMap (stmtLines unit level) := by
  obtain ⟨start, last, rfl, solid⟩ := closed
  rw [bodyLines_append_closed (isClosed_singleton solid), List.flatMap_append]
  simp [bodyLines, solid]

theorem bodyLines_concat_blank (body : List Stmt) :
    bodyLines unit level (body ++ [.blank]) = bodyLines unit level body := by
  induction body with
  | nil => rfl
  | cons stmt rest ih =>
      have same : (rest ++ [Stmt.blank]).all Stmt.isBlank = rest.all Stmt.isBlank := by
        rw [List.all_append]
        exact Bool.and_true _
      rw [List.cons_append, bodyLines, bodyLines, ih, same]

theorem render_concat_blank (body : List Stmt) :
    render unit level (body ++ [.blank]) = render unit level body := by
  rw [render_eq, render_eq, bodyLines_concat_blank]

theorem render_append_closed (firstClosed : IsClosed first) (secondClosed : IsClosed second) :
    render unit level (first ++ second) = render unit level first ++ render unit level second := by
  rw [render_eq, render_eq, render_eq, bodyLines_append_closed secondClosed, firstClosed.bodyLines_eq,
    endedLines_append]

theorem render_blank_between (firstClosed : IsClosed first) (secondClosed : IsClosed second) :
    render unit level (first ++ .blank :: second) =
      render unit level first ++ "\n" ++ render unit level second := by
  have closed : IsClosed (.blank :: second) := secondClosed.append [.blank]
  have lines : bodyLines unit level (.blank :: second) = "" :: bodyLines unit level second := by
    rw [closed.bodyLines_eq, List.flatMap_cons, ← secondClosed.bodyLines_eq, stmtLines]
    rfl
  rw [render_append_closed firstClosed closed, render_eq unit level (.blank :: second), lines,
    endedLines_cons, ← render_eq, String.empty_append, String.append_assoc]

theorem IsClosed.intercalate {bodies : List (List Stmt)} (nonempty : bodies ≠ [])
    (closed : ∀ body ∈ bodies, IsClosed body) : IsClosed ([.blank].intercalate bodies) := by
  induction bodies with
  | nil => contradiction
  | cons body rest ih =>
      cases rest with
      | nil =>
          rw [List.intercalate_singleton]
          exact closed body (by simp)
      | cons next rest =>
          rw [List.intercalate_cons_cons]
          exact (ih (by simp) fun other member => closed other (by simp [member])).append _

theorem render_intercalate {bodies : List (List Stmt)} (closed : ∀ body ∈ bodies, IsClosed body) :
    render unit level ([.blank].intercalate bodies) =
      String.intercalate "\n" (bodies.map (render unit level)) := by
  induction bodies with
  | nil => rfl
  | cons body rest ih =>
      cases rest with
      | nil => simp
      | cons next rest =>
          have others : ∀ other ∈ next :: rest, IsClosed other :=
            fun other member => closed other (List.mem_cons_of_mem body member)
          rw [List.intercalate_cons_cons, List.append_assoc, List.singleton_append,
            render_blank_between (closed body List.mem_cons_self) (.intercalate (by simp) others),
            ih others]
          simp only [List.map_cons, String.intercalate_cons_cons]

theorem spaced_append (stmts tail : List Stmt) :
    (stmts.flatMap fun stmt => [stmt, .blank]) ++ tail =
      [.blank].intercalate (stmts.map (fun stmt => [stmt]) ++ [tail]) := by
  induction stmts with
  | nil => simp
  | cons stmt rest ih =>
      cases rest with
      | nil => simp [List.intercalate_cons_cons]
      | cons next rest =>
          rw [List.map_cons, List.map_cons, List.cons_append, List.cons_append,
            List.intercalate_cons_cons, List.flatMap_cons, List.append_assoc, ih]
          rfl

theorem closed_singletons {stmts : List Stmt} {last : Stmt} (solid : ∀ stmt ∈ stmts, stmt.isBlank = false)
    (lastSolid : last.isBlank = false) :
    ∀ body ∈ stmts.map (fun stmt => [stmt]) ++ [[last]], IsClosed body := by
  intro body member
  simp only [List.mem_append, List.mem_map, List.mem_singleton] at member
  rcases member with ⟨stmt, inside, rfl⟩ | rfl
  · exact isClosed_singleton (solid stmt inside)
  · exact isClosed_singleton lastSolid

theorem render_spaced (stmts : List Stmt) (solid : ∀ stmt ∈ stmts, stmt.isBlank = false) :
    render unit level (stmts.flatMap fun stmt => [stmt, .blank]) =
      String.intercalate "\n" (stmts.map fun stmt => render unit level [stmt]) := by
  rcases List.eq_nil_or_concat stmts with rfl | ⟨start, last, rfl⟩
  · rfl
  · have startSolid : ∀ stmt ∈ start, stmt.isBlank = false :=
      fun stmt inside => solid stmt (by simp [inside])
    have closed := closed_singletons startSolid (solid last (by simp))
    have split : ((start.concat last).flatMap fun stmt => [stmt, .blank]) =
        ((start.flatMap fun stmt => [stmt, .blank]) ++ [last]) ++ [.blank] := by simp
    rw [split, render_concat_blank, spaced_append, render_intercalate closed]
    simp [Function.comp_def]

theorem endedLines_flatMap (lines : Stmt → List String) (stmts : List Stmt) :
    endedLines (stmts.flatMap lines) = String.join (stmts.map fun stmt => endedLines (lines stmt)) := by
  induction stmts with
  | nil => rfl
  | cons stmt rest ih => rw [List.flatMap_cons, endedLines_append, ih, List.map_cons, String.join_cons]

theorem render_solid (solid : ∀ stmt ∈ body, stmt.isBlank = false) :
    render unit level body =
      String.join (body.map fun stmt => endedLines (stmtLines unit level stmt)) := by
  by_cases empty : body = []
  · rw [empty]
    rfl
  · rw [render_eq, (isClosed_of_solid empty solid).bodyLines_eq, endedLines_flatMap]

theorem Function.render_stmt (function : Function) :
    render standardUnit 0 [function.stmt] = function.text := by
  have solid : ∀ stmt ∈ [function.stmt], stmt.isBlank = false := by simp [Function.stmt, Stmt.isBlank]
  have margin : padding standardUnit 0 = "" := rfl
  rw [render_solid solid, Function.text, render_eq]
  simp [Function.stmt, stmtLines, endedLines_append, margin, String.append_assoc]

end LoadScript.Script
