namespace Segmentation.Sql.Schema

def customers : List String :=
  [ "CREATE TABLE IF NOT EXISTS customers (",
    "    id UUID PRIMARY KEY,",
    "    owner_id TEXT NOT NULL,",
    "    name TEXT NOT NULL,",
    "    email TEXT NOT NULL,",
    "    spend DOUBLE PRECISION NOT NULL DEFAULT 0,",
    "    visits BIGINT NOT NULL DEFAULT 0,",
    "    last_order_date TIMESTAMPTZ,",
    "    created_at TIMESTAMPTZ NOT NULL DEFAULT NOW()",
    ");" ]

def customersIndex : List String :=
  [ "CREATE INDEX IF NOT EXISTS idx_customers_owner_last_order",
    "    ON customers (owner_id, last_order_date DESC NULLS LAST);" ]

def segments : List String :=
  [ "CREATE TABLE IF NOT EXISTS segments (",
    "    id UUID PRIMARY KEY,",
    "    owner_id TEXT NOT NULL,",
    "    name TEXT NOT NULL,",
    "    description TEXT,",
    "    rules JSONB NOT NULL,",
    "    compiled_filter JSONB NOT NULL,",
    "    customer_count BIGINT,",
    "    is_active BOOLEAN NOT NULL DEFAULT TRUE,",
    "    created_at TIMESTAMPTZ NOT NULL,",
    "    updated_at TIMESTAMPTZ NOT NULL,",
    "    last_run TIMESTAMPTZ,",
    "    CONSTRAINT uq_segments_owner_name UNIQUE (owner_id, name)",
    ");" ]

def script : String :=
  "\n".intercalate ([""] ++ customers ++ [""] ++ customersIndex ++ [""] ++ segments ++ [""])

end Segmentation.Sql.Schema
