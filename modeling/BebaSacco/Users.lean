import Mathlib.Logic.Basic
import Mathlib.Tactic.Common

/-! # Users and their roles

Results:
 1. `manages_below_admin`: who manages an administrator is one.
 2. `manages_superAdmin`: only the platform's administrator manages one of its own.
-/

namespace BebaSacco

inductive UserRole where
  | superAdmin
  | tenantAdmin
  | manager
  | teller
  | member
  | auditor
  | loanOfficer
  | chairman
  | accountant
  | system
  deriving DecidableEq, Repr

inductive AccountStatus where
  | pending
  | active
  | rejected
  | suspended
  deriving DecidableEq, Repr

/-- What the services of users and of authentication throw. -/
inductive AuthErr where
  | badRequest (message : String)
  | unauthorized (message : String)
  | forbidden (message : String)
  | notFound (message : String)
  | conflict (message : String)
  | tooManyRequests (message : String)
  deriving DecidableEq, Repr

def canManageRole (actorRole targetRole : UserRole) : Bool :=
  match actorRole with
  | .superAdmin => true
  | .tenantAdmin => targetRole != .superAdmin
  | .manager =>
    targetRole == .loanOfficer || targetRole == .accountant || targetRole == .teller ||
      targetRole == .member || targetRole == .chairman || targetRole == .auditor
  | _ => false

def canCreateUserWithRole (actorRole targetRole : UserRole) : Bool :=
  canManageRole actorRole targetRole

/-- The administrators of the platform and of a tenant. -/
def UserRole.administers : UserRole → Bool
  | .superAdmin | .tenantAdmin => true
  | _ => false

variable {actor target : UserRole}

theorem manages_below_admin (h : canManageRole actor target = true)
    (htarget : target.administers = true) : actor.administers = true := by
  cases actor with
  | superAdmin | tenantAdmin => rfl
  | manager =>
    cases target with
    | superAdmin | tenantAdmin => cases h
    | _ => cases htarget
  | _ => cases h

theorem manages_superAdmin (h : canManageRole actor .superAdmin = true) : actor = .superAdmin := by
  cases actor with
  | superAdmin => rfl
  | _ => cases h

end BebaSacco
