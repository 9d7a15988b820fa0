/-
This file models the server's roles and permissions.

A role is the string the server stores and puts into tokens; the functions here decide
what a string means. The server-level roles have a numeric level and a default set of
permissions, and two of them pass every check. The roles inside an organization are
strings of their own, two of which, `admin` and `operator`, are spelled like
server-level roles; nothing in this file tells the two apart.
-/

import Mathlib.Data.List.Basic

namespace SovaDesk.Auth

/-! ### Server-level roles -/

def roleSuperAdmin : String := "super_admin"
def roleServerAdmin : String := "server_admin"
def roleGlobalAdmin : String := "global_admin"

/-- A legacy role, equivalent to `super_admin`. -/
def roleAdmin : String := "admin"
def roleOperator : String := "operator"
def roleViewer : String := "viewer"

/-- The role of accounts that only activate the desktop client: no device access. -/
def rolePro : String := "pro"

/-- The numeric privilege level of a role; a string that names no role has the lowest. -/
def roleLevel (role : String) : Nat :=
  if role = roleSuperAdmin then 5
  else if role = roleServerAdmin ∨ role = roleGlobalAdmin then 4
  else if role = roleAdmin then 5
  else if role = roleOperator then 2
  else if role = roleViewer then 1
  else 0

def isSuperAdminRole (role : String) : Bool := role == roleSuperAdmin || role == roleAdmin

/-- At least the privilege level of the required role. -/
def hasPermission (userRole requiredRole : String) : Bool :=
  roleLevel requiredRole ≤ roleLevel userRole

/-- Whether a caller of one role may give another role to an account. -/
def canAssignRole (callerRole targetRole : String) : Bool :=
  if isSuperAdminRole callerRole then true
  else if callerRole = roleGlobalAdmin then
    targetRole == roleOperator || targetRole == roleViewer || targetRole == rolePro
  else if callerRole = roleServerAdmin then false
  else false

/-- The strings that name a server-level role. -/
def validRole (role : String) : Bool :=
  [roleSuperAdmin, roleServerAdmin, roleGlobalAdmin, roleAdmin, roleOperator, roleViewer,
    rolePro].contains role

/-! ### Permissions -/

/-- Every discrete action of the system. -/
def allPermissions : List String :=
  ["device.view", "device.connect", "device.edit", "device.delete", "device.ban",
    "device.change_id", "user.view", "user.create", "user.edit", "user.delete", "server.config",
    "server.keys", "server.attestation", "org.create", "org.edit", "org.delete",
    "org.manage_users", "org.manage_devices", "audit.view", "metrics.view", "blocklist.edit",
    "cdap.view", "cdap.command", "cdap.terminal", "cdap.files", "mesh.terminal", "mesh.files",
    "mesh.power", "enrollment.manage", "enrollment.approve", "chat.access", "branding.edit",
    "billing.view", "billing.manage", "billing.reports", "billing.export"]

/-- The permissions each role has unless the database overrides them; `none` for a string that is
no key of the map. -/
def defaultRolePermissions (role : String) : Option (List String) :=
  if role = roleSuperAdmin then some allPermissions
  else if role = roleAdmin then some allPermissions
  else if role = roleServerAdmin then
    some ["server.config", "server.keys", "server.attestation", "blocklist.edit", "user.view",
      "device.view", "audit.view", "metrics.view", "enrollment.manage"]
  else if role = roleGlobalAdmin then
    some ["user.view", "user.create", "user.edit", "user.delete", "org.create", "org.edit",
      "org.delete", "org.manage_users", "org.manage_devices", "device.view", "device.connect",
      "device.edit", "device.delete", "device.ban", "device.change_id", "audit.view",
      "metrics.view", "cdap.view", "cdap.command", "cdap.terminal", "cdap.files",
      "mesh.terminal", "mesh.files", "mesh.power", "chat.access", "enrollment.manage",
      "enrollment.approve", "branding.edit", "billing.view", "billing.manage",
      "billing.reports", "billing.export"]
  else if role = roleOperator then
    some ["device.view", "device.connect", "device.edit", "user.view", "audit.view",
      "metrics.view", "cdap.view", "cdap.command", "mesh.power", "chat.access",
      "org.manage_devices", "billing.view", "billing.reports"]
  else if role = roleViewer then
    some ["device.view", "audit.view", "metrics.view", "cdap.view", "chat.access"]
  else if role = rolePro then some []
  else none

def isProRole (role : String) : Bool := role == rolePro

/-- What the `pro` role never holds, even by an override. -/
def proRoleBlocksPermission (permission : String) : Bool :=
  "device.".toList.isPrefixOf permission.toList || permission == "org.manage_devices"

/-- The built-in answer, before any override of the database. -/
def roleHasPermission (role permission : String) : Bool :=
  if isProRole role && proRoleBlocksPermission permission then false
  else if isSuperAdminRole role then true
  else
    match defaultRolePermissions role with
    | none => false
    | some permissions => permissions.contains permission

/-! ### A string that names no server-level role -/

section notValid

variable {role : String}

theorem validRole_iff :
    validRole role = true ↔ role = roleSuperAdmin ∨ role = roleServerAdmin ∨
      role = roleGlobalAdmin ∨ role = roleAdmin ∨ role = roleOperator ∨ role = roleViewer ∨
      role = rolePro := by
  simp [validRole]

theorem roleLevel_of_not_valid (unnamed : validRole role = false) : roleLevel role = 0 := by
  have names := mt validRole_iff.mpr (Bool.eq_false_iff.mp unnamed)
  simp only [not_or] at names
  obtain ⟨superAdmin, serverAdmin, globalAdmin, admin, operator, viewer, _⟩ := names
  simp [roleLevel, superAdmin, serverAdmin, globalAdmin, admin, operator, viewer]

theorem isSuperAdminRole_of_not_valid (unnamed : validRole role = false) :
    isSuperAdminRole role = false := by
  have names := mt validRole_iff.mpr (Bool.eq_false_iff.mp unnamed)
  simp only [not_or] at names
  simp [isSuperAdminRole, names.1, names.2.2.2.1]

theorem ne_globalAdmin_of_not_valid (unnamed : validRole role = false) :
    role ≠ roleGlobalAdmin := by
  have names := mt validRole_iff.mpr (Bool.eq_false_iff.mp unnamed)
  simp only [not_or] at names
  exact names.2.2.1

theorem roleHasPermission_of_not_valid (unnamed : validRole role = false) (permission : String) :
    roleHasPermission role permission = false := by
  have names := mt validRole_iff.mpr (Bool.eq_false_iff.mp unnamed)
  simp only [not_or] at names
  obtain ⟨superAdmin, serverAdmin, globalAdmin, admin, operator, viewer, pro⟩ := names
  simp [roleHasPermission, isSuperAdminRole_of_not_valid unnamed, defaultRolePermissions,
    superAdmin, serverAdmin, globalAdmin, admin, operator, viewer, pro]

end notValid

/-! ### Roles inside an organization -/

def orgRoleOwner : String := "owner"
def orgRoleAdmin : String := "admin"
def orgRoleOperator : String := "operator"
def orgRoleUser : String := "user"

def validOrgRole (role : String) : Bool :=
  role == orgRoleOwner || role == orgRoleAdmin || role == orgRoleOperator || role == orgRoleUser

/-- The numeric privilege level of an organization role. -/
def orgRoleLevel (role : String) : Nat :=
  if role = orgRoleOwner then 40
  else if role = orgRoleAdmin then 30
  else if role = orgRoleOperator then 20
  else if role = orgRoleUser then 10
  else 0

/-- Whether a caller of one organization role may assign another. -/
def orgCanAssignRole (callerOrgRole targetOrgRole : String) : Bool :=
  if callerOrgRole = orgRoleOwner then
    targetOrgRole == orgRoleAdmin || targetOrgRole == orgRoleOperator ||
      targetOrgRole == orgRoleUser
  else if callerOrgRole = orgRoleAdmin then
    targetOrgRole == orgRoleOperator || targetOrgRole == orgRoleUser
  else false

/-- A role that a caller may assign ranks below the caller's own. -/
theorem orgRoleLevel_lt_of_canAssign {callerOrgRole targetOrgRole : String}
    (assigns : orgCanAssignRole callerOrgRole targetOrgRole = true) :
    orgRoleLevel targetOrgRole < orgRoleLevel callerOrgRole := by
  unfold orgCanAssignRole at assigns
  split at assigns
  · next owner =>
    simp only [Bool.or_eq_true, beq_iff_eq] at assigns
    rw [owner]
    rcases assigns with (rfl | rfl) | rfl <;> decide
  · split at assigns
    · next admin =>
      simp only [Bool.or_eq_true, beq_iff_eq] at assigns
      rw [admin]
      rcases assigns with rfl | rfl <;> decide
    · cases assigns

/-- The organization roles that are also names of server-level roles. -/
theorem validRole_of_validOrgRole {role : String} (orgRole : validOrgRole role = true) :
    validRole role = true ↔ role = roleAdmin ∨ role = roleOperator := by
  simp only [validOrgRole, Bool.or_eq_true, beq_iff_eq] at orgRole
  rcases orgRole with ((rfl | rfl) | rfl) | rfl <;> decide

end SovaDesk.Auth
