/-!
# The product

The names under which the program is known to users and their files.
-/

namespace ApiLint.Product

/-- The name of the program. -/
def name : String := "speclint"

/-- The version of the program. -/
def version : String := "0.1.0"

end ApiLint.Product
