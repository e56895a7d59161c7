import Typeahead.Value

namespace Typeahead.Options

/-! The options a session starts with, unless the user sets others. -/

def defaults : Value.Fields :=
  [("filepath_completion_use_working_dir", .int 0),
   ("auto_trigger", .int 1),
   ("min_num_of_chars_for_completion", .int 2),
   ("min_num_identifier_candidate_chars", .int 0),
   ("semantic_triggers", .record []),
   ("filetype_specific_completion_to_disable", .record [("gitcommit", .int 1)]),
   ("seed_identifiers_with_syntax", .int 0),
   ("collect_identifiers_from_comments_and_strings", .int 0),
   ("collect_identifiers_from_tags_files", .int 0),
   ("extra_conf_globlist", .list []),
   ("global_ycm_extra_conf", .text ""),
   ("confirm_extra_conf", .int 1),
   ("complete_in_comments", .int 0),
   ("complete_in_strings", .int 1),
   ("max_diagnostics_to_display", .int 30),
   ("filetype_whitelist", .record [("*", .int 1)]),
   ("filetype_blacklist", .record [("tagbar", .int 1), ("qf", .int 1), ("notes", .int 1), ("markdown", .int 1),
     ("unite", .int 1), ("text", .int 1), ("vimwiki", .int 1), ("pandoc", .int 1), ("mail", .int 1)]),
   ("auto_start_csharp_server", .int 1),
   ("auto_stop_csharp_server", .int 1),
   ("use_ultisnips_completer", .int 1),
   ("csharp_server_port", .int 2000)]

end Typeahead.Options
