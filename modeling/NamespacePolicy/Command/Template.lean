/-! The policy file that a project starts with. -/

namespace NamespacePolicy

def policyTemplate : String := "# nsdepcop configuration
#
# Config files are inherited: nsdepcop.toml files in parent folders apply
# too, and settings here override theirs. Rule lists are combined.

# Set to false to switch analysis off for this folder and below.
is_enabled = true

# A namespace may use its ancestors (App.Ui -> App) without a rule.
child_can_depend_on_parent_implicitly = true

# A namespace may use its descendants (App -> App.Ui) without a rule.
# parent_can_depend_on_child_implicitly = false

# Stop reporting after this many illegal dependencies.
max_issue_count = 100

# Severity of illegal dependencies and of the issue-limit notice:
# info, warning or error.
dependency_issue_severity = \"warning\"
# max_issue_count_severity = \"warning\"

# Also check assembly references against [[allowed-assembly]] rules.
# check_assembly_dependencies = false

# Source files to skip, relative to the project folder.
excluded_files = [\"**/obj/**\", \"**/*.g.cs\"]

# Pattern syntax:
#   App.Ui      exact namespace (\".\" is the global namespace)
#   App.?       exactly one more component
#   App.*       App and any number of components below it
#   /App\\..+/   regular expression over the whole name
#
# The most specific matching allow rule wins; any matching disallow rule
# vetoes.

[[allowed]]
from = \"*\"
to = \"System.*\"

# [[allowed]]
# from = \"App.Ui\"
# to = \"App.Services\"
# visible_types = [\"OrderService\"]

# [[disallowed]]
# from = \"App.Services.*\"
# to = \"App.Ui.*\"

# [[visible-members]]
# of_namespace = \"App.Services\"
# types = [\"OrderService\", \"UserService\"]

# [[allowed-assembly]]
# from = \"App.*\"
# to = \"App.Core\"
"

end NamespacePolicy
