import MediaBooster.Api.MediaToken
import MediaBooster.Api.RateLimit
import MediaBooster.Auth.Canonical
import MediaBooster.Auth.Replay
import MediaBooster.Auth.Request
import MediaBooster.Auth.Signer
import MediaBooster.Backups.Command
import MediaBooster.Backups.Directory
import MediaBooster.Backups.Rehearsal
import MediaBooster.Backups.Safety
import MediaBooster.Browser.MapLimit
import MediaBooster.Browser.Multipart
import MediaBooster.Browser.Pacing
import MediaBooster.Browser.Semaphore
import MediaBooster.Config.Redirects
import MediaBooster.Config.Settings
import MediaBooster.Delivery.Manifest
import MediaBooster.Delivery.Ready
import MediaBooster.Delivery.Safety
import MediaBooster.Domain.Batch
import MediaBooster.Domain.Keys
import MediaBooster.Domain.Php
import MediaBooster.Domain.Primitives
import MediaBooster.Domain.Text
import MediaBooster.Domain.Upload
import MediaBooster.Domain.Url
import MediaBooster.Gnuboard5.Attachments
import MediaBooster.Gnuboard5.Exactness
import MediaBooster.Gnuboard5.Filenames
import MediaBooster.Gnuboard5.Links
import MediaBooster.Gnuboard5.Locking
import MediaBooster.Gnuboard5.Rehearsal
import MediaBooster.Gnuboard5.Repeats
import MediaBooster.Gnuboard5.Services
import MediaBooster.Gnuboard5.Store
import MediaBooster.Gnuboard5.System
import MediaBooster.Gnuboard7.Claims
import MediaBooster.Gnuboard7.Links
import MediaBooster.Gnuboard7.Moves
import MediaBooster.Gnuboard7.Policies
import MediaBooster.Gnuboard7.Rehearsal
import MediaBooster.Gnuboard7.Retention
import MediaBooster.Gnuboard7.Schedules
import MediaBooster.Gnuboard7.Services
import MediaBooster.Gnuboard7.Settings
import MediaBooster.Gnuboard7.Store
import MediaBooster.Gnuboard7.System
import MediaBooster.Gnuboard7.Validator
import MediaBooster.Inventory.Coverage
import MediaBooster.Inventory.Grace
import MediaBooster.Inventory.Rehearsal
import MediaBooster.Lifecycle.Automaton
import MediaBooster.Lifecycle.Cleanup
import MediaBooster.Lifecycle.Deletion
import MediaBooster.Lifecycle.Drain
import MediaBooster.Lifecycle.Isolation
import MediaBooster.Lifecycle.Leases
import MediaBooster.Lifecycle.Pins
import MediaBooster.Lifecycle.Purge
import MediaBooster.Lifecycle.Retries
import MediaBooster.Media.AnnexB
import MediaBooster.Media.Format
import MediaBooster.Media.Probe
import MediaBooster.Media.Signature
import MediaBooster.Media.Watermark
import MediaBooster.Policies.Answers
import MediaBooster.Policies.Log
import MediaBooster.Policies.Pinning
import MediaBooster.Policies.Settings
import MediaBooster.Processing.Derivatives
import MediaBooster.Processing.Endings
import MediaBooster.Processing.Facts
import MediaBooster.Processing.Gates
import MediaBooster.Processing.Ready
import MediaBooster.Processing.Sandbox
import MediaBooster.Processing.Slots
import MediaBooster.Processing.TempDisk
import MediaBooster.Queue.Attempts
import MediaBooster.Queue.Fairness
import MediaBooster.Queue.Fencing
import MediaBooster.Queue.Heartbeats
import MediaBooster.Queue.Lease
import MediaBooster.Queue.Outcomes
import MediaBooster.Queue.Run
import MediaBooster.Quota.Admission
import MediaBooster.Quota.Backup
import MediaBooster.Quota.Counters
import MediaBooster.Quota.Triggers
import MediaBooster.Quota.Usage
import MediaBooster.Service.Asks
import MediaBooster.Service.Download
import MediaBooster.Service.Histories
import MediaBooster.Service.Histories.Inventory
import MediaBooster.Service.Histories.Lifecycle
import MediaBooster.Service.Histories.Policies
import MediaBooster.Service.Histories.Publications
import MediaBooster.Service.Histories.Uploads
import MediaBooster.Service.Histories.Watermarks
import MediaBooster.Service.Histories.Worker
import MediaBooster.Service.Inventory
import MediaBooster.Service.Knowledge
import MediaBooster.Service.Lifecycle
import MediaBooster.Service.ObjectStore
import MediaBooster.Service.Policies
import MediaBooster.Service.Rehearsal
import MediaBooster.Service.Rules
import MediaBooster.Service.System
import MediaBooster.Service.Uploads
import MediaBooster.Service.Worker
import MediaBooster.Service.World
import MediaBooster.Storage.Provider
import MediaBooster.Store.Calls
import MediaBooster.Store.Effects
import MediaBooster.Store.Inventory
import MediaBooster.Store.Jobs
import MediaBooster.Store.Lifecycle
import MediaBooster.Store.Nonces
import MediaBooster.Store.Operations
import MediaBooster.Store.Orphans
import MediaBooster.Store.Processing
import MediaBooster.Store.Queue
import MediaBooster.Store.Rows
import MediaBooster.Store.Schema
import MediaBooster.Store.SitePolicy
import MediaBooster.Store.Statements
import MediaBooster.Store.Uploads
import MediaBooster.Store.Usage
import MediaBooster.Tenancy.Isolation
import MediaBooster.Tenancy.Rows
import MediaBooster.Theory.Chunks
import MediaBooster.Theory.Compound
import MediaBooster.Theory.Coupling
import MediaBooster.Theory.Decimal
import MediaBooster.Theory.Framing
import MediaBooster.Theory.Gates
import MediaBooster.Theory.Lease
import MediaBooster.Theory.Loops
import MediaBooster.Theory.Permits
import MediaBooster.Theory.ReplayWindow
import MediaBooster.Theory.Requests
import MediaBooster.Theory.RoundRobin
import MediaBooster.Theory.Run
import MediaBooster.Theory.Schedules
import MediaBooster.Theory.Selection
import MediaBooster.Theory.Table
import MediaBooster.Theory.Threads
import MediaBooster.Theory.TokenBucket
import MediaBooster.Theory.Tokens
import MediaBooster.Theory.Transaction
import MediaBooster.Theory.Triples
import MediaBooster.Uploads.Batch
import MediaBooster.Uploads.Completion
import MediaBooster.Uploads.Layout
