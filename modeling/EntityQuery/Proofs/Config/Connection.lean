import EntityQuery.Config.Basic
import EntityQuery.Proofs.Text.Continuing
import EntityQuery.Proofs.Text.Digits

/-!
# Connections by their text

The text of a connection is made of its names and its port with signs between them, and nothing in a
name is escaped.  So the text determines them unless a sign stands in a name right where the same
name of another connection ends.
-/

namespace EntityQuery.ConnectionConfig

/-- The same database under the same credentials. -/
structure SameAccess (connection other : ConnectionConfig) : Prop where
  username : connection.username = other.username
  password : connection.password = other.password
  host : connection.host = other.host
  port : connection.port = other.port
  database : connection.database = other.database

/-- All is the same up to a name that begins with the other one and the sign behind it. -/
inductive Covers (connection other : ConnectionConfig) : Prop
  | username (h : Text.Continues ":" other.username connection.username)
  | password (husername : connection.username = other.username)
      (h : Text.Continues "@" other.password connection.password)
  | host (husername : connection.username = other.username)
      (hpassword : connection.password = other.password)
      (h : Text.Continues (":" ++ toString other.port ++ "/") other.host connection.host)

variable {connection other : ConnectionConfig}

theorem SameAccess.symm (h : connection.SameAccess other) : other.SameAccess connection :=
  ⟨h.username.symm, h.password.symm, h.host.symm, h.port.symm, h.database.symm⟩

theorem slash_mem_portSign {port : UInt16} : '/' ∈ (":" ++ toString port ++ "/").toList := by
  rw [String.toList_append]
  exact List.mem_append_right _ (by decide)

theorem not_covers_of_notMem (husername : ':' ∉ connection.username.toList)
    (hpassword : '@' ∉ connection.password.toList) (hhost : '/' ∉ connection.host.toList) :
    ¬ connection.Covers other := by
  rintro (h | ⟨-, h⟩ | ⟨-, -, h⟩)
  · exact husername (h.mem (by decide))
  · exact hpassword (h.mem (by decide))
  · exact hhost (h.mem slash_mem_portSign)

theorem Covers.not_sameAccess (h : connection.Covers other) : ¬ connection.SameAccess other := by
  intro hsame
  rcases h with h | ⟨-, h⟩ | ⟨-, -, h⟩
  · exact h.ne (List.mem_singleton_self _) hsame.username.symm
  · exact h.ne (List.mem_singleton_self _) hsame.password.symm
  · exact h.ne slash_mem_portSign hsame.host.symm

/-- What stands behind the password in the text. -/
def place (connection : ConnectionConfig) : String :=
  connection.host ++ ":" ++ (toString connection.port ++ "/" ++ connection.database)

theorem text_eq (connection : ConnectionConfig) :
    connection.text = "postgresql://" ++ (connection.username ++ ":" ++
      (connection.password ++ "@" ++ connection.place)) := by
  unfold text place
  simp only [String.append_assoc]

theorem notMem_port {port : UInt16} {c : Char} (hc : c.isDigit = false) :
    c ∉ (toString port).toList := by
  intro h
  have hdigit : c.isDigit = true :=
    Nat.isDigit_of_mem_toDigits (by decide) (by decide) (Nat.toList_repr ▸ h)
  exact Bool.false_ne_true (hc.symm.trans hdigit)

/-- A port and a database are told apart, as a port has digits only. -/
theorem port_database_of_eq {port otherPort : UInt16} {database otherDatabase : String}
    (h : toString port ++ "/" ++ database = toString otherPort ++ "/" ++ otherDatabase) :
    port = otherPort ∧ database = otherDatabase := by
  have hends : ∀ {first second : UInt16}, ¬ Text.Continues "/" (toString first) (toString second) :=
    fun hmore => notMem_port rfl (hmore.mem (c := '/') (by decide))
  rcases Text.append_sign_cases (c := '/') rfl h with
    ⟨hport, hdatabase⟩ | ⟨more, hmore, -⟩ | ⟨more, hmore, -⟩
  · exact ⟨UInt16.toNat_inj.mp (toString_nat_inj.mp hport), hdatabase⟩
  · exact absurd ⟨more, hmore⟩ hends
  · exact absurd ⟨more, hmore⟩ hends

/-- A host that goes on with a colon goes on with the port of the shorter one. -/
theorem continues_host {more : String} (hhost : other.host = connection.host ++ ":" ++ more)
    (hrest : toString connection.port ++ "/" ++ connection.database =
      more ++ ":" ++ (toString other.port ++ "/" ++ other.database)) :
    Text.Continues (":" ++ toString connection.port ++ "/") connection.host other.host := by
  obtain ⟨behind, hmore⟩ :=
    Text.continues_of_append_ne (c := '/') (d := ':') rfl rfl (by decide) (notMem_port rfl) hrest
  refine ⟨behind, ?_⟩
  rw [hhost, hmore]
  simp only [String.append_assoc]

theorem place_cases (h : connection.place = other.place) :
    (connection.host = other.host ∧ connection.port = other.port ∧
        connection.database = other.database) ∨
      Text.Continues (":" ++ toString connection.port ++ "/") connection.host other.host ∨
      Text.Continues (":" ++ toString other.port ++ "/") other.host connection.host := by
  rcases Text.append_sign_cases (c := ':') rfl h with
    ⟨hhost, hrest⟩ | ⟨more, hhost, hrest⟩ | ⟨more, hhost, hrest⟩
  · exact .inl ⟨hhost, port_database_of_eq hrest⟩
  · exact .inr (.inl (continues_host hhost hrest))
  · exact .inr (.inr (continues_host hhost hrest))

/-- Connections with one text are the same ones, unless a name of one begins with the same name of
the other and the sign that stands behind it in the text. -/
theorem sameAccess_iff_of_text_eq (htext : connection.text = other.text) :
    connection.SameAccess other ↔ ¬ connection.Covers other ∧ ¬ other.Covers connection := by
  refine ⟨fun hsame => ⟨fun h => h.not_sameAccess hsame, fun h => h.not_sameAccess hsame.symm⟩, ?_⟩
  rintro ⟨hcovers, hcovered⟩
  rw [text_eq, text_eq, String.append_right_inj] at htext
  rcases Text.append_sign_cases (c := ':') rfl htext with
    ⟨husername, htext⟩ | ⟨more, husername, -⟩ | ⟨more, husername, -⟩
  case inr.inl => exact absurd (.username ⟨more, husername⟩) hcovered
  case inr.inr => exact absurd (.username ⟨more, husername⟩) hcovers
  rcases Text.append_sign_cases (c := '@') rfl htext with
    ⟨hpassword, htext⟩ | ⟨more, hpassword, -⟩ | ⟨more, hpassword, -⟩
  case inr.inl => exact absurd (.password husername.symm ⟨more, hpassword⟩) hcovered
  case inr.inr => exact absurd (.password husername ⟨more, hpassword⟩) hcovers
  rcases place_cases htext with ⟨hhost, hport, hdatabase⟩ | hhost | hhost
  · exact ⟨husername, hpassword, hhost, hport, hdatabase⟩
  · exact absurd (.host husername.symm hpassword.symm hhost) hcovered
  · exact absurd (.host husername hpassword hhost) hcovers

section Accounts

/-- Two accounts of one database. -/
def account (username password : String) : ConnectionConfig where
  host := "db"
  port := 5432
  database := "orders"
  username := username
  password := password
  minConnections := 1
  maxConnections := 5
  connectionTimeout := 30
  idleTimeout := 600
  maxLifetime := 3600

/-- The application with a larger pool. -/
def largerPool : ConnectionConfig :=
  { account "app" "secret" with maxConnections := 9 }

theorem sameAccess_largerPool :
    (account "app" "secret").text = largerPool.text ∧
      (account "app" "secret").SameAccess largerPool := by
  have htext : (account "app" "secret").text = largerPool.text := rfl
  refine ⟨htext, (sameAccess_iff_of_text_eq htext).mpr ⟨?_, ?_⟩⟩
  · exact not_covers_of_notMem (by decide) (by decide) (by decide)
  · exact not_covers_of_notMem (by decide) (by decide) (by decide)

/-- Accepted connections with one text need not be the same: a colon in the name of the user is
not told from the one behind it. -/
theorem not_forall_sameAccess_of_text_eq :
    ¬ ∀ config other : Config, config.check = .ok () → other.check = .ok () →
      config.connection.text = other.connection.text →
        config.connection.SameAccess other.connection := by
  intro h
  have hsame := h ⟨account "app:live" "secret", .postgres, .standard, .standard⟩
    ⟨account "app" "live:secret", .postgres, .standard, .standard⟩ (by decide) (by decide)
    (by decide)
  exact absurd hsame.username (by decide)

end Accounts

end EntityQuery.ConnectionConfig
