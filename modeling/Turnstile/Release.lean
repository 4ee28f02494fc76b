/-!
# Name and version

What the gate says about itself.
-/

namespace Turnstile.Release

def name : String := "txgate"

def version : String := "0.3.0"

/-- The version with the name. -/
def buildInfo : String := version ++ " (" ++ name ++ ")"

/-- The schema of the one table. -/
def schema : String := "CREATE TABLE IF NOT EXISTS map (key INT, value INT)"

/-- The name of the database that every workload uses. -/
def databaseName : String := "app"

end Turnstile.Release
