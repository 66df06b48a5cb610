import PageScript.Proofs.Basic
import PageScript.Proofs.Run.Records
import PageScript.Run.Executor

/-! Load errors in the log: one entry each, in their order, and nothing else of a context changes
but what its sink is told. -/
namespace PageScript

namespace Executor

theorem reportErrorsControl (ctx : Context) (control : Control) (reports : List String) :
    reportErrors { ctx with control } reports = { reportErrors ctx reports with control } := by
  induction reports generalizing ctx with
  | nil => rfl
  | cons report reports ih => exact ih (ctx.error report)

theorem reportErrorsLogged (ctx : Context) (reports : List String) :
    ∃ notices, reportErrors ctx reports = { ctx with
      log := ctx.log ++ (reports.map (ctx.stamped .error)).toArray
      notices } := by
  induction reports generalizing ctx with
  | nil => exact ⟨ctx.notices, by simp [reportErrors]⟩
  | cons report reports ih =>
    obtain ⟨notices, logged⟩ := ih (ctx.error report)
    have entries : ctx.log ++ (report :: reports |>.map (ctx.stamped .error)).toArray =
        (ctx.error report).log ++ (reports.map (ctx.stamped .error)).toArray := by
      apply Array.ext'
      simp [Context.error, Context.logAt, Context.stamped]
    exact ⟨notices, by rw [entries]; exact logged⟩

theorem reportErrorsSame (ctx : Context) (reports : List String) :
    (reportErrors ctx reports).control = ctx.control ∧
      (reportErrors ctx reports).outside = ctx.outside := by
  obtain ⟨notices, logged⟩ := reportErrorsLogged ctx reports
  rw [logged]
  exact ⟨rfl, rfl⟩

theorem reportErrorsAppend (ctx : Context) (first second : List String) :
    reportErrors ctx (first ++ second) = reportErrors (reportErrors ctx first) second :=
  List.foldl_append ..

end Executor

end PageScript
