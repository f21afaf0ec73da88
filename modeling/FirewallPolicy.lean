import FirewallPolicy.Main
import FirewallPolicy.Jobs.Session
import FirewallPolicy.Proofs.Firewall.RuleText
import FirewallPolicy.Proofs.Firewall.State
import FirewallPolicy.Proofs.Firewall.Commands
import FirewallPolicy.Proofs.Firewall.Edits
import FirewallPolicy.Proofs.Jobs.Compiled
import FirewallPolicy.Proofs.Policy.Accepted
import FirewallPolicy.Proofs.Services.HostService
import FirewallPolicy.Proofs.Services.Interleaving
import FirewallPolicy.Proofs.Services.Composition
import FirewallPolicy.Proofs.Firewall.Reversal
import FirewallPolicy.Proofs.Prepare.Phases
import FirewallPolicy.Proofs.Prepare.Wiring
import FirewallPolicy.Proofs.Shell.Joined
import FirewallPolicy.Proofs.Address.Characters
import FirewallPolicy.Proofs.Shell.SafeOperations
import FirewallPolicy.Proofs.Jobs.Policies
import FirewallPolicy.Proofs.Shell.Transcripts
import FirewallPolicy.Proofs.Firewall.Verdict
import FirewallPolicy.Proofs.Services.InSequence
import FirewallPolicy.Proofs.Prepare.InputVerdict
import FirewallPolicy.Proofs.Country.DumpRows
import FirewallPolicy.Proofs.Country.ReadBack
import FirewallPolicy.Proofs.Script.ReadBack
import FirewallPolicy.Proofs.Policy.Schema
import FirewallPolicy.Proofs.Policy.Judgement
import FirewallPolicy.Proofs.Policy.Validation
import FirewallPolicy.Proofs.Policy.Lapses
import FirewallPolicy.Proofs.Jobs.DocumentedErrors
import FirewallPolicy.Proofs.Firewall.Reachability
import FirewallPolicy.Proofs.Prepare.SafeRuns
import FirewallPolicy.Proofs.Services.SafeRuns
import FirewallPolicy.Proofs.Jobs.SafePolicies
import FirewallPolicy.Proofs.Workflow.Runs
import FirewallPolicy.Proofs.Services.OwnChains
import FirewallPolicy.Proofs.Jobs.NothingLeft
import FirewallPolicy.Proofs.Text.Trimmed
import FirewallPolicy.Proofs.Address.Notation
import FirewallPolicy.Proofs.Blacklist.CanonicalForm
import FirewallPolicy.Proofs.Policy.Kept
import FirewallPolicy.Proofs.Policy.UnreadKeys
import FirewallPolicy.Proofs.Files.Writing
import FirewallPolicy.Proofs.Policy.SharedNetworks
import FirewallPolicy.Proofs.CommandLine.Options
import FirewallPolicy.Proofs.Jobs.HandedOn
import FirewallPolicy.Proofs.CommandLine.AllOrNothing
import FirewallPolicy.Proofs.Firewall.Packets
import FirewallPolicy.Proofs.Services.Admission
import FirewallPolicy.Proofs.Services.NameQueries
import FirewallPolicy.Proofs.Country.Comments
import FirewallPolicy.Proofs.Country.WrittenRanges
import FirewallPolicy.Proofs.Country.MalformedRecords
import FirewallPolicy.Proofs.Country.RowEnds
import FirewallPolicy.Proofs.Blacklist.FetchedNetworks
import FirewallPolicy.Proofs.Policy.JobLookup
import FirewallPolicy.Proofs.Jobs.FreeText
import FirewallPolicy.Proofs.Address.Families
import FirewallPolicy.Proofs.Shell.AddressOperands
import FirewallPolicy.Proofs.Jobs.AddressFamilies
import FirewallPolicy.Proofs.Text.Encoded
import FirewallPolicy.Proofs.Yaml.Construction
import FirewallPolicy.Proofs.Yaml.LexicalFaults
import FirewallPolicy.Proofs.Yaml.Merging
import FirewallPolicy.Proofs.Yaml.NodeFaults
import FirewallPolicy.Proofs.Policy.DocumentLapses
import FirewallPolicy.Proofs.Policy.LoadedFiles
import FirewallPolicy.Proofs.Text.Cuts
import FirewallPolicy.Proofs.Url.PercentCoding
import FirewallPolicy.Proofs.Url.Queries
import FirewallPolicy.Proofs.Url.Parts
import FirewallPolicy.Proofs.Url.ReadBack
import FirewallPolicy.Proofs.Policy.ConnectionUrls
import FirewallPolicy.Proofs.Policy.Tokens
import FirewallPolicy.Proofs.Blacklist.Fetches
import FirewallPolicy.Proofs.Policy.NameLengths
import FirewallPolicy.Proofs.Shell.NameOperands
import FirewallPolicy.Proofs.Jobs.NameLengths
