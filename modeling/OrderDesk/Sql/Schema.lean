import OrderDesk.Sql.Exchange

/-!
# The schema

The tables of the service, a script that creates them where they are missing, and
the checks that the service makes before it starts.
-/

namespace OrderDesk
namespace Sql

/-- The tables that the service reads and writes. -/
def requiredTables : List String := ["products", "orders", "order_lines"]

/-- The script that creates the tables.  It may be run again at any time. -/
def schemaScript : String :=
  "\n".intercalate [
    "-- Products, orders and order lines.",
    "-- Every statement is idempotent so the script can be re-applied.",
    "",
    "CREATE TABLE IF NOT EXISTS products (",
    "    id          UUID PRIMARY KEY,",
    "    code        VARCHAR(64)    NOT NULL,",
    "    name        VARCHAR(255)   NOT NULL,",
    "    description TEXT           NOT NULL DEFAULT '',",
    "    price       NUMERIC(20, 4) NOT NULL CHECK (price >= 0),",
    "    created_at  TIMESTAMPTZ    NOT NULL DEFAULT NOW(),",
    "    updated_at  TIMESTAMPTZ    NOT NULL DEFAULT NOW(),",
    "    deleted_at  TIMESTAMPTZ",
    ");",
    "",
    "CREATE TABLE IF NOT EXISTS orders (",
    "    id          UUID PRIMARY KEY,",
    "    code        VARCHAR(32)    NOT NULL,",
    "    user_id     UUID           NOT NULL,",
    "    total_price NUMERIC(20, 4) NOT NULL,",
    "    status      VARCHAR(16)    NOT NULL DEFAULT 'new'",
    "                CHECK (status IN ('new', 'in_progress', 'done', 'cancelled')),",
    "    version     BIGINT         NOT NULL DEFAULT 1,",
    "    created_at  TIMESTAMPTZ    NOT NULL DEFAULT NOW(),",
    "    updated_at  TIMESTAMPTZ    NOT NULL DEFAULT NOW(),",
    "    deleted_at  TIMESTAMPTZ",
    ");",
    "",
    "CREATE INDEX IF NOT EXISTS idx_orders_user_created ON orders (user_id, created_at);",
    "CREATE INDEX IF NOT EXISTS idx_orders_code ON orders (code);",
    "",
    "CREATE TABLE IF NOT EXISTS order_lines (",
    "    id          UUID PRIMARY KEY,",
    "    order_id    UUID           NOT NULL REFERENCES orders (id),",
    "    product_id  UUID           NOT NULL REFERENCES products (id),",
    "    position    INTEGER        NOT NULL,",
    "    quantity    INTEGER        NOT NULL CHECK (quantity > 0),",
    "    price       NUMERIC(20, 4) NOT NULL,",
    "    created_at  TIMESTAMPTZ    NOT NULL DEFAULT NOW(),",
    "    updated_at  TIMESTAMPTZ    NOT NULL DEFAULT NOW(),",
    "    deleted_at  TIMESTAMPTZ",
    ");",
    "",
    "CREATE INDEX IF NOT EXISTS idx_order_lines_order ON order_lines (order_id, position);"]

/-- Sees whether the database answers. -/
def verifyConnection : Exchange DatabaseError Unit :=
  send .probe

/-- Whether all the given tables exist; the first missing one ends the search. -/
def tablesExist : List String → Exchange DatabaseError Bool
  | [] => .done true
  | table :: tables => do
    if ← firstRow (.tableExists table) then tablesExist tables else return false

/-- Whether all tables of the service exist. -/
def checkSchema : Exchange DatabaseError Bool :=
  tablesExist requiredTables

/-- Creates the tables. -/
def applySchema : Exchange DatabaseError Unit :=
  send (.script schemaScript)

end Sql
end OrderDesk
